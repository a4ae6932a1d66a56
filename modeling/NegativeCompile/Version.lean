/-! # Name and version

What the program calls itself. -/

namespace NegativeCompile

/-- The name of the program. -/
def programName : String := "nctest"

/-- The version of the program. -/
def version : String := "0.3.0"

end NegativeCompile

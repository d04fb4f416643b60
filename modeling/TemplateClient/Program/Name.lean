/-!
# The name of the program

Its name and its version, as the program tells them.
-/

namespace TemplateClient

/-- The name of the program. -/
def programName : String := "online-tester"

/-- The version of the program. -/
def programVersion : String := "0.1.0"

end TemplateClient

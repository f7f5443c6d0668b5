/-!
Line ends. A file's text uses a line feed alone; both older conventions are read as one.
-/
set_option autoImplicit false
namespace TemplateSchema.Text

def unifiedLines : List Char → List Char
  | [] => []
  | '\r' :: '\n' :: rest => '\n' :: unifiedLines rest
  | c :: rest => (if c = '\r' then '\n' else c) :: unifiedLines rest

def firstLine (s : String) : String :=
  String.ofList (s.toList.takeWhile (· != '\n'))

end TemplateSchema.Text

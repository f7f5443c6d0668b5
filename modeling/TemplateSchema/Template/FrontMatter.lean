import TemplateSchema.Text.Blank
/-!
Front matter: the lines between a first line of three dashes and the next such line. Blanks may
follow the dashes, and a line ends at a line feed or at a carriage return and a line feed.
-/
set_option autoImplicit false
namespace TemplateSchema.FrontMatter

-- What follows three dashes and the blanks after them.
def afterDashes? : List Char → Option (List Char)
  | '-' :: '-' :: '-' :: rest => some (rest.dropWhile Text.isLineBlank)
  | _ => none

def afterLineEnd? : List Char → Option (List Char)
  | '\n' :: rest => some rest
  | '\r' :: '\n' :: rest => some rest
  | _ => none

-- The text behind an opening line.
def opened? (cs : List Char) : Option (List Char) :=
  (afterDashes? cs).bind afterLineEnd?

-- The text behind a closing line, which may also end the text.
def closed? (cs : List Char) : Option (List Char) :=
  match afterDashes? cs with
  | some [] => some []
  | some rest => afterLineEnd? rest
  | none => none

-- The text in front of the first closing line, and the text behind it.
def untilClosed (atLineStart : Bool) : List Char → Option (List Char × List Char)
  | [] => none
  | c :: rest =>
    match if atLineStart then closed? (c :: rest) else none with
    | some body => some ([], body)
    | none => (untilClosed (c == '\n') rest).map fun (front, body) => (c :: front, body)

def withoutFinalBreak (front : List Char) : List Char :=
  match front.reverse with
  | '\n' :: '\r' :: rest => rest.reverse
  | '\n' :: rest => rest.reverse
  | _ => front

-- The front matter without its last line break, and the body.
def splitChars (cs : List Char) : Option (List Char × List Char) := do
  let inner ← opened? cs
  let (front, body) ← untilClosed true inner
  some (withoutFinalBreak front, body)

-- The front matter, if there is any, and the rest of the text.
def split (text : String) : Option String × String :=
  match splitChars text.toList with
  | some (front, body) => (some (String.ofList front), String.ofList body)
  | none => (none, text)

end TemplateSchema.FrontMatter

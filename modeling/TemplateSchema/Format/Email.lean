import TemplateSchema.Text.Basic
import TemplateSchema.Text.Blank
/-!
The strict form of an email address: something, one `@`, and a domain with a dot inside it, all
without blanks. A line feed at the very end is not looked at.
-/
set_option autoImplicit false
namespace TemplateSchema.Email

def isBlank (p : Point) : Bool :=
  p.char?.any Text.isBlank

def withoutFinalFeed (ps : List Point) : List Point :=
  if ps.getLast? = some (.char '\n') then ps.dropLast else ps

-- A dot that neither begins nor ends the domain.
def hasInnerDot (domain : List Point) : Bool :=
  (domain.drop 1).dropLast.contains (.char '.')

def isAddress (ps : List Point) : Bool :=
  let local_ := ps.takeWhile (· != .char '@')
  match ps.dropWhile (· != .char '@') with
  | [] => false
  | _ :: domain =>
    !local_.isEmpty && !domain.contains (.char '@') && hasInnerDot domain && !ps.any isBlank

def isValid (t : Text) : Bool :=
  isAddress (withoutFinalFeed t.points)

end TemplateSchema.Email

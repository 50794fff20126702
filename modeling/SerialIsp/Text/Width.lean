import SerialIsp.Text.Width.Character
import SerialIsp.Text.Width.Emoji
import SerialIsp.Text.Width.Ligature

/-!
# Width of a text on a character grid

How many columns a text fills where every column holds one narrow character. What a
character adds depends on what follows it, so a text is measured from its end: `place` puts
one character before a measured rest, and `width` does so for all of them.
-/

namespace SerialIsp.Text

/-- A character that says how the character before it is shown. -/
inductive Selector where
  /-- As a picture. -/
  | picture
  /-- As plain text. -/
  | plain
  /-- As a quotation mark that fills two columns. -/
  | fullwidth
deriving DecidableEq, Repr

/-- The selector that a character is. -/
def Selector.of? (c : Char) : Option Selector :=
  match c.toNat with
  | 0xFE0F => some .picture
  | 0xFE0E => some .plain
  | 0xFE01 => some .fullwidth
  | _ => none

/-- Quotation marks that have a wide and a narrow form. -/
def quotationMarks : CodePoints := [(0x2018, 0x2019), (0x201C, 0x201D)]

/-- What stands behind a character, as far as its width depends on it. -/
inductive Following where
  /-- Nothing that matters. -/
  | nothing
  /-- The part of a picture. -/
  | picture (p : Picture)
  /-- The end of a group of letters. -/
  | letters (l : Ligature)
deriving DecidableEq, Repr

/-- What a character is to those before it when nothing behind it matters. -/
def Following.of (c : Char) : Following :=
  if c.toNat ≤ 0xA0 then .nothing
  else
    match Picture.of? c, Ligature.of? c with
    | some p, _ => .picture p
    | none, some l => .letters l
    | none, none => .nothing

/-- A character that is drawn together with what follows it: the columns this adds, and what
    the characters before it meet. -/
def Following.before (c : Char) : Following → Option (Int × Following)
  | .nothing => none
  | .picture p => (p.before c).map fun (columns, p) => (columns, .picture p)
  | .letters l =>
    (l.before c).map fun (columns, l?) => (columns, l?.elim .nothing .letters)

/-- What is left of what follows a selector once the selector stands before it: a group of
    letters that looks through it and, before the selector for pictures, a picture waiting for
    one to be joined. -/
def Following.behind (selector : Selector) (c : Char) : Following → Following
  | .letters l => if l.looksThrough c then .letters l else .nothing
  | .picture .joined => if selector = .picture then .picture .joined else .nothing
  | .picture .joinedKeycap => if selector = .picture then .picture .joinedKeycap else .nothing
  | _ => .nothing

/-- What is left when the character before a selector pays it no heed. -/
def Following.withoutSelector : Following → Following
  | .letters l => .letters l
  | _ => .nothing

/-- The columns of a character with a selector behind it, when it heeds the selector, and
    what it is to the characters before it. A picture joined to another shares its columns. -/
def Selector.applied (c : Char) (following : Following) : Selector → Option (Int × Following)
  | .picture =>
    if selectable.has c then
      some (match following with | .picture _ => 0 | _ => 2, .picture .whole)
    else none
  | .plain => if narrowable c then some (1, .nothing) else none
  | .fullwidth => if quotationMarks.has c then some (2, .nothing) else none

/-- The measured end of a text. -/
structure Measured where
  /-- The columns it fills. -/
  columns : Int
  /-- The selector it starts with. -/
  selector : Option Selector
  /-- What it is to the character before it, its selector aside. -/
  following : Following
deriving DecidableEq, Repr

/-- No text at all. -/
def Measured.empty : Measured := ⟨0, none, .nothing⟩

/-- A character before a rest that starts with no selector it heeds. -/
def placePlain (c : Char) (columns : Int) (following : Following) : Measured :=
  match Selector.of? c with
  | some selector => ⟨columns, some selector, following.behind selector c⟩
  | none =>
    match following.before c with
    | some (added, following) => ⟨columns + added, none, following⟩
    | none => ⟨columns + charWidth c, none, .of c⟩

/-- A character before a measured rest. -/
def place (c : Char) (rest : Measured) : Measured :=
  match rest.selector with
  | none => placePlain c rest.columns rest.following
  | some selector =>
    match selector.applied c rest.following with
    | some (added, following) => ⟨rest.columns + added, none, following⟩
    | none => placePlain c rest.columns rest.following.withoutSelector

/-- The columns a text fills. -/
def width (s : String) : Nat := (s.toList.foldr place .empty).columns.toNat

end SerialIsp.Text

-- The first place of a separator in a text, and the white space of JavaScript.
import OmniTranslate.Text

namespace text

/-- The two sides of the first separator. -/
def split_once (sep : Text) : Text → Option (Text × Text)
  | [] => if sep = [] then some ([], []) else none
  | c :: t =>
    if sep.isPrefixOf (c :: t) then some ([], (c :: t).drop sep.length)
    else (split_once sep t).map fun sides => (c :: sides.1, sides.2)

/-- How many characters stand before the first separator. -/
def index_of (sep : Text) : Text → Option Nat
  | [] => if sep = [] then some 0 else none
  | c :: t => if sep.isPrefixOf (c :: t) then some 0 else (index_of sep t).map (· + 1)

theorem split_once_eq (sep t : Text) :
    split_once sep t = (index_of sep t).map fun i => (t.take i, t.drop (i + sep.length)) := by
  induction t with
  | nil =>
    unfold split_once index_of
    split
    · rename_i h
      simp [h]
    · rfl
  | cons c t ih =>
    unfold split_once index_of
    split
    · simp
    · rw [ih]
      cases index_of sep t with
      | none => rfl
      | some i => simp [Nat.add_right_comm i 1]

/-- The white space and the line ends of JavaScript: the byte order mark is one of them, the next
line control is not. -/
def is_js_space (c : Char) : Bool := c = '\uFEFF' || (c ≠ '\u0085' && is_whitespace c)

def js_trim (t : Text) : Text := (t.dropWhile is_js_space).rdropWhile is_js_space

end text

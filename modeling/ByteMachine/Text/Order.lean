import ByteMachine.Text.Basic

/-!
# The order of texts

Texts are ordered by the code points of their characters, a text before those that go on after it.
-/

namespace ByteMachine
namespace Text

/-- Whether a text comes before another one in the order of code points. -/
def precedes : Text → Text → Bool
  | _, [] => false
  | [], _ :: _ => true
  | c :: left, d :: right => c.toNat < d.toNat || (c == d && precedes left right)

end Text
end ByteMachine

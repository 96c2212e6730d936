import Stubgen.Regex.Parser
import Mathlib.Tactic

/-!
# Reading a pattern token by token

A pattern that is read ends in a gap, or starts with a token that the state takes
in and goes on with what follows the token.  What is shown of every token in turn
holds of the whole pattern.
-/

namespace Stubgen.Regex.ParserState

/-- From a state a text is read to its end and leaves another state. -/
inductive Reads : ParserState → Text → ParserState → Prop
  | done (s : ParserState) (t : Text) (hgap : skipGap s.flags.verbose t = []) :
    Reads s t s
  | step (s next last : ParserState) (t after : Text) (c : Char) (body : Text)
    (token : Token) (hgap : skipGap s.flags.verbose t = c :: body)
    (hread : Token.read? s.flags (c :: body) = some (token, after))
    (htake : s.take? token = some next) (hshorter : after.length < t.length)
    (hrest : Reads next after last) : Reads s t last

theorem run?_of_gap {s : ParserState} {t : Text}
    (hgap : skipGap s.flags.verbose t = []) : s.run? t = some s := by
  rw [run?, hgap]

theorem run?_of_token {s next : ParserState} {t after body : Text} {c : Char}
    {token : Token} (hgap : skipGap s.flags.verbose t = c :: body)
    (hread : Token.read? s.flags (c :: body) = some (token, after))
    (htake : s.take? token = some next) (hshorter : after.length < t.length) :
    s.run? t = next.run? after := by
  rw [run?, hgap]
  simp only [hread, htake]
  exact if_pos hshorter

theorem reads_of_run? {s last : ParserState} {t : Text}
    (hrun : s.run? t = some last) : Reads s t last := by
  induction hlength : t.length using Nat.strong_induction_on generalizing s t with
  | h n ih =>
      subst hlength
      rw [run?] at hrun
      split at hrun
      next hgap =>
          cases hrun
          exact .done _ t hgap
      next c body hgap =>
          split at hrun
          next => cases hrun
          next token after hread =>
              split at hrun
              next => cases hrun
              next next htake =>
                  split at hrun
                  next hshorter =>
                      exact .step s next last t after c body token hgap hread htake
                        hshorter (ih after.length hshorter hrun rfl)
                  next => cases hrun

end Stubgen.Regex.ParserState

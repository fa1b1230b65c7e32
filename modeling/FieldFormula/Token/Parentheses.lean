import FieldFormula.SyntaxError

/-!
# Balance of parentheses

The parentheses of a token list are matched on the flat list, before the grammar descends into
them. Afterwards the grammar meets no parenthesis without its partner.
-/

namespace FieldFormula.Token

/-- Matches the parentheses of the tokens; `opened` are the spans of those still open, the last
one first. The innermost one without a partner is reported. -/
def matchParentheses (maxDepth : Nat) : (opened : List Span) → List Token →
    Except SyntaxError Unit
  | [], [] => .ok ()
  | innermost :: _, [] => .error ⟨.unclosedOpen, innermost⟩
  | opened, token :: rest =>
    match token.kind with
    | .openParen =>
      if maxDepth ≤ opened.length then
        .error ⟨.parenthesesTooDeep maxDepth, token.span⟩
      else
        matchParentheses maxDepth (token.span :: opened) rest
    | .closeParen =>
      match opened with
      | [] => .error ⟨.unmatchedClose, token.span⟩
      | _ :: outer => matchParentheses maxDepth outer rest
    | _ => matchParentheses maxDepth opened rest

/-- Refuses tokens whose parentheses do not match or nest too deeply. -/
def checkParentheses (maxDepth : Nat) (tokens : List Token) : Except SyntaxError Unit :=
  matchParentheses maxDepth [] tokens

end FieldFormula.Token

import CommitStyle.Text

/-!
# Quoted spans

Names in quotes keep their own spelling, so the rules on letter case look past them. A quote that has
no partner of its own kind further on is an ordinary character.
-/

namespace CommitStyle.Casing

def isQuote (c : Char) : Bool := c == '`' || c == '"' || c == '\''

def afterQuote? (quote : Char) : List Char → Option (List Char)
  | [] => none
  | c :: rest => if c = quote then some rest else afterQuote? quote rest

theorem length_afterQuote? {quote : Char} {text rest : List Char}
    (h : afterQuote? quote text = some rest) : rest.length < text.length := by
  induction text with
  | nil => simp [afterQuote?] at h
  | cons c cs ih =>
    by_cases hc : c = quote
    · simp_all [afterQuote?]
    · have := ih (by simpa [afterQuote?, hc] using h)
      simp only [List.length_cons]
      omega

def dropQuoted : List Char → List Char
  | [] => []
  | c :: rest =>
    if isQuote c then
      match h : afterQuote? c rest with
      | some after =>
        have := length_afterQuote? h
        dropQuoted after
      | none => c :: dropQuoted rest
    else c :: dropQuoted rest
  termination_by text => text.length
  decreasing_by all_goals simp_all <;> omega

/-- The text that the rules on letter case look at. -/
def stripQuoted (text : List Char) : List Char := Text.trim (dropQuoted text)

end CommitStyle.Casing

/-!
# `PromptGraph.Text.Letter` — comparison without regard to letter case

Words are compared with fixed words of ASCII letters, so of the lower-case map only the letters whose lower-case
form is an ASCII letter matter: the ASCII capitals and the Kelvin sign.
-/

namespace PromptGraph.Text

/-- The lower-case form, where that is an ASCII letter. -/
def lowerChar (c : Char) : Char :=
  if 'A' ≤ c ∧ c ≤ 'Z' then Char.ofNat (c.toNat + 32) else if c.toNat = 0x212A then 'k' else c

def lower (s : String) : String := String.ofList (s.toList.map lowerChar)

/-- The lower-case form of ASCII capitals alone. -/
def lowerAscii (s : String) : String := String.ofList (s.toList.map Char.toLower)

end PromptGraph.Text

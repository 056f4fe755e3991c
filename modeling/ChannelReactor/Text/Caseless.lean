/-!
# Caseless search

Whether a text holds a marker when the case of ASCII letters does not count.
-/
namespace ChannelReactor.Text

def lowered (text : List Char) : List Char := text.map Char.toLower

/-- Whether `marker` stands somewhere in a text, letter for letter. -/
def occurs (marker : List Char) : List Char → Bool
  | [] => marker.isEmpty
  | c :: rest => marker.isPrefixOf (c :: rest) || occurs marker rest

/-- Whether `marker`, given in small letters, stands somewhere in a text in any case. -/
def occursCaseless (marker : String) (text : String) : Bool :=
  occurs marker.toList (lowered text.toList)

/-- `occurs` finds exactly the lists that stand inside the text. -/
theorem occurs_iff {marker text : List Char} : occurs marker text = true ↔ marker <:+: text := by
  induction text with
  | nil => simp [occurs, List.isEmpty_iff]
  | cons c rest ih => simp [occurs, ih, List.infix_cons_iff]

end ChannelReactor.Text

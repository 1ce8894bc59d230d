import Mustache.Text

/-! The channels on which notices are given, all of them under one root. -/

namespace Mustache.Channel

/-- The channel that all others are under. -/
def root : Text := .ofString "bigote"

/-- The channel of a name, which is put under the root unless it is there already. -/
def named (name : Text) : Text :=
  if name = root || (root ++ ['.']).isPrefixOf name then name else root ++ '.' :: name

/-- The channel of what happens while templates are cut into tokens. -/
def parsing : Text := named (.ofString "parser")

/-- The channel of what happens while templates are written. -/
def writing : Text := named (.ofString "writer")

end Mustache.Channel

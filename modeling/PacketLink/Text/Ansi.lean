namespace PacketLink.Ansi

/-! Terminal text in colour and in bold or dim type. A colour ends by going back to the default
foreground, a type by going back to plain text. -/

def escape (code : String) : String := "\x1b[" ++ code ++ "m"

/-- Text in the palette's colour of this number. -/
def colored (color : Nat) (text : String) : String :=
  escape s!"38;5;{color}" ++ text ++ escape "39"

def cyan : String → String := colored 14

def green : String → String := colored 10

def yellow : String → String := colored 11

def bold (text : String) : String := escape "1" ++ text ++ escape "0"

def dim (text : String) : String := escape "2" ++ text ++ escape "0"

def boldColored (color : Nat) (text : String) : String :=
  escape s!"38;5;{color}" ++ bold text

def boldMagenta : String → String := boldColored 13

def boldRed : String → String := boldColored 9

end PacketLink.Ansi

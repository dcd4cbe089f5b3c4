import ChatGateway.Text.Category

/-!
# Characters that show

Which characters a quoted text may hold as they are.  The others are the
controls, format characters, separators other than the space, private and
unassigned code points, those that have no shape of their own
(`Default_Ignorable_Code_Point`, as the Hangul fillers), and those that extend the
character before them (`Grapheme_Extend`) and would not be seen apart from it.  The
two halfwidth sound marks U+FF9E and U+FF9F extend too, but are seen, so they show.
-/

namespace ChatGateway.Text

/-- Whether the characters of a category do not show.  The marks are those that take
up no room of their own. -/
def Category.isHidden : Category → Bool
  | .control | .format | .surrogate | .privateUse | .unassigned
  | .spaceSeparator | .lineSeparator | .paragraphSeparator
  | .nonspacingMark | .enclosingMark => true
  | _ => false

/-- The characters of other categories that do not show: marks that take up room
beside the character that they extend, and the Hangul fillers. -/
def hiddenOthers : List Nat := [
  0x9BE, 0x9D7, 0xB3E, 0xB57, 0xBBE, 0xBD7, 0xCC0, 0xCC2, 0xCC7, 0xCC8, 0xCCA, 0xCCB, 0xCD5, 0xCD6,
  0xD3E, 0xD57, 0xDCF, 0xDDF, 0x115F, 0x1160, 0x1715, 0x1734, 0x1B35, 0x1B3B, 0x1B3D, 0x1B43,
  0x1B44, 0x1BAA, 0x1BF2, 0x1BF3, 0x302E, 0x302F, 0x3164, 0xA953, 0xA9C0, 0xFFA0, 0x111C0, 0x11235,
  0x1133E, 0x1134D, 0x11357, 0x113B8, 0x113C2, 0x113C5, 0x113C7, 0x113C8, 0x113C9, 0x113CF, 0x114B0,
  0x114BD, 0x115AF, 0x116B6, 0x11930, 0x1193D, 0x11F41, 0x16FF0, 0x16FF1, 0x1D165, 0x1D166, 0x1D16D,
  0x1D16E, 0x1D16F, 0x1D170, 0x1D171, 0x1D172]

/-- Whether a character shows. -/
def shows (c : Char) : Bool :=
  c == ' ' || !((Category.ofChar c).isHidden || hiddenOthers.contains c.toNat)

end ChatGateway.Text

import Watchdesk.Text.Mark
import Watchdesk.Text.Unassigned

/-!
# Characters that a quoted text escapes

Controls and format controls, separators other than the space, the blank fillers of the Hangul
script, code points without a character, and the marks that extend the character before them:
printed bare inside quotes, none of these would be seen, or they would attach to the quote.
-/

namespace Watchdesk.Text

/-- What is escaped besides code points without a character and nonspacing marks. -/
def concealed : Spans := [
  (0x0, 0x1F), (0x7F, 0xA0), (0xAD, 0xAD), (0x600, 0x605), (0x61C, 0x61C), (0x6DD, 0x6DD),
  (0x70F, 0x70F), (0x890, 0x891), (0x8E2, 0x8E2), (0x9BE, 0x9BE), (0x9D7, 0x9D7), (0xB3E, 0xB3E),
  (0xB57, 0xB57), (0xBBE, 0xBBE), (0xBD7, 0xBD7), (0xCC0, 0xCC0), (0xCC2, 0xCC2), (0xCC7, 0xCC8),
  (0xCCA, 0xCCB), (0xCD5, 0xCD6), (0xD3E, 0xD3E), (0xD57, 0xD57), (0xDCF, 0xDCF), (0xDDF, 0xDDF),
  (0x1680, 0x1680), (0x1715, 0x1715), (0x1734, 0x1734), (0x180E, 0x180E), (0x1B35, 0x1B35),
  (0x1B3B, 0x1B3B), (0x1B3D, 0x1B3D), (0x1B43, 0x1B44), (0x1BAA, 0x1BAA), (0x1BF2, 0x1BF3),
  (0x2000, 0x200F), (0x2028, 0x202F), (0x205F, 0x2064), (0x2066, 0x206F), (0x3000, 0x3000),
  (0x302E, 0x302F), (0x3164, 0x3164), (0xA953, 0xA953), (0xA9C0, 0xA9C0), (0xFEFF, 0xFEFF),
  (0xFFA0, 0xFFA0), (0xFFF9, 0xFFFB), (0x110BD, 0x110BD), (0x110CD, 0x110CD), (0x111C0, 0x111C0),
  (0x11235, 0x11235), (0x1133E, 0x1133E), (0x1134D, 0x1134D), (0x11357, 0x11357),
  (0x113B8, 0x113B8), (0x113C2, 0x113C2), (0x113C5, 0x113C5), (0x113C7, 0x113C9),
  (0x113CF, 0x113CF), (0x114B0, 0x114B0), (0x114BD, 0x114BD), (0x115AF, 0x115AF),
  (0x116B6, 0x116B6), (0x11930, 0x11930), (0x1193D, 0x1193D), (0x11F41, 0x11F41),
  (0x13430, 0x1343F), (0x16FF0, 0x16FF1), (0x1BCA0, 0x1BCA3), (0x1D165, 0x1D166),
  (0x1D16D, 0x1D17A), (0xE0001, 0xE0001), (0xE0020, 0xE007F)]

/-- A code point that a quoted text writes as an escape. -/
def isUnprintable (n : Nat) : Bool :=
  concealed.contains n || (0x300 ≤ n && (isNonspacing n || isUnassigned n))

end Watchdesk.Text

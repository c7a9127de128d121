import Watchdesk.Text.Mark

/-!
# Directions

Some scripts are written from right to left. A name that has letters of such a script is read the
way it is meant only if each of its labels keeps to one direction.
-/

namespace Watchdesk.Domain

open Text

/-- How a character stands in a line. -/
inductive Direction where
  | leftToRight
  | rightToLeft
  | digit
  | arabicDigit
  | neutral
  | mark
deriving DecidableEq, Repr

/-- The characters that are neither marks nor letters written from left to right. -/
def directions : Bands Direction := [
  (0x21, 0x2F, .neutral), (0x30, 0x39, .digit), (0x3A, 0x60, .neutral), (0x7B, 0xD7, .neutral),
  (0xF7, 0xF7, .neutral), (0x2B9, 0x2BA, .neutral), (0x2C2, 0x2CF, .neutral),
  (0x2D2, 0x2ED, .neutral), (0x2EF, 0x2FF, .neutral), (0x375, 0x375, .neutral),
  (0x3F6, 0x3F6, .neutral), (0x58A, 0x58F, .neutral), (0x5BE, 0x5F4, .rightToLeft),
  (0x606, 0x607, .neutral), (0x608, 0x608, .rightToLeft), (0x609, 0x60A, .neutral),
  (0x60B, 0x60B, .rightToLeft), (0x60C, 0x60C, .neutral), (0x60D, 0x60D, .rightToLeft),
  (0x60E, 0x60F, .neutral), (0x61B, 0x64A, .rightToLeft), (0x660, 0x669, .arabicDigit),
  (0x66A, 0x66A, .neutral), (0x66B, 0x66C, .arabicDigit), (0x66D, 0x6D5, .rightToLeft),
  (0x6DE, 0x6DE, .neutral), (0x6E5, 0x6E6, .rightToLeft), (0x6E9, 0x6E9, .neutral),
  (0x6EE, 0x6EF, .rightToLeft), (0x6F0, 0x6F9, .digit), (0x6FA, 0x7F5, .rightToLeft),
  (0x7F6, 0x7F9, .neutral), (0x7FA, 0x8C9, .rightToLeft), (0x9F2, 0x9F3, .neutral),
  (0x9FB, 0x9FB, .neutral), (0xAF1, 0xAF1, .neutral), (0xBF3, 0xBFA, .neutral),
  (0xC78, 0xC7E, .neutral), (0xE3F, 0xE3F, .neutral), (0xF3A, 0xF3D, .neutral),
  (0x1390, 0x1399, .neutral), (0x1400, 0x1400, .neutral), (0x169B, 0x169C, .neutral),
  (0x17DB, 0x17DB, .neutral), (0x17F0, 0x180A, .neutral), (0x1940, 0x1945, .neutral),
  (0x19DE, 0x19FF, .neutral), (0x200C, 0x214D, .neutral), (0x218A, 0x2335, .neutral),
  (0x237B, 0x2394, .neutral), (0x2396, 0x26AB, .neutral), (0x26AD, 0x27FF, .neutral),
  (0x2900, 0x2BFF, .neutral), (0x2CE5, 0x2CEA, .neutral), (0x2CF9, 0x2CFF, .neutral),
  (0x2E00, 0x3004, .neutral), (0x3008, 0x3020, .neutral), (0x3030, 0x3030, .neutral),
  (0x3037, 0x3037, .neutral), (0x303D, 0x303F, .neutral), (0x30A0, 0x30A0, .neutral),
  (0x30FB, 0x30FB, .neutral), (0x31C0, 0x31E5, .neutral), (0x4DC0, 0x4DFF, .neutral),
  (0xA490, 0xA4C6, .neutral), (0xA60D, 0xA60F, .neutral), (0xA673, 0xA67F, .neutral),
  (0xA700, 0xA721, .neutral), (0xA788, 0xA788, .neutral), (0xA828, 0xA82B, .neutral),
  (0xA838, 0xA839, .neutral), (0xA874, 0xA877, .neutral), (0xAB6A, 0xAB6B, .neutral),
  (0xFBB2, 0xFBC2, .rightToLeft), (0xFBC3, 0xFE46, .neutral), (0xFE73, 0xFE73, .rightToLeft),
  (0x10101, 0x10101, .neutral), (0x10140, 0x1018C, .neutral), (0x10190, 0x101A0, .neutral),
  (0x102E1, 0x102FB, .digit), (0x10800, 0x1091B, .rightToLeft), (0x1091F, 0x1091F, .neutral),
  (0x10920, 0x10B35, .rightToLeft), (0x10B39, 0x10B3F, .neutral), (0x10B40, 0x10D23, .rightToLeft),
  (0x10D30, 0x10D49, .arabicDigit), (0x10D4A, 0x10D4F, .rightToLeft), (0x10D6E, 0x10D6E, .neutral),
  (0x10D6F, 0x10D8F, .rightToLeft), (0x10E60, 0x10E7E, .arabicDigit),
  (0x10E80, 0x10EC7, .rightToLeft), (0x10ED0, 0x10ED8, .neutral), (0x10F00, 0x10FF6, .rightToLeft),
  (0x11052, 0x11065, .neutral), (0x11660, 0x1166C, .neutral), (0x11FD5, 0x11FF1, .neutral),
  (0x16FE2, 0x16FE2, .neutral), (0x1CC00, 0x1CEF0, .neutral), (0x1D1E9, 0x1D245, .neutral),
  (0x1D300, 0x1D356, .neutral), (0x1E2FF, 0x1E2FF, .neutral), (0x1E800, 0x1ED3D, .rightToLeft),
  (0x1EEF0, 0x1F12F, .neutral), (0x1F16D, 0x1F16F, .neutral), (0x1F1AD, 0x1F1AD, .neutral),
  (0x1F260, 0x1FBFA, .neutral)]

/-- Nonspacing marks that stand in a line as letters do. -/
def standing : List Nat := [0xCBF, 0xCC6, 0x11A07, 0x11A08, 0x11C3F]

/-- How a character stands in a line. -/
def direction (n : Nat) : Direction :=
  if isNonspacing n && !(n ∈ standing) then .mark else (directions.get? n).getD .leftToRight

/-- A character of a script that is written from right to left. -/
def Direction.isReversed (d : Direction) : Bool := d ∈ [.rightToLeft, .arabicDigit]

/-- A label keeps to one direction, given the directions of its characters: that of its first one,
which has to be a letter. It ends in a letter or a digit and its marks. -/
def keepsDirection (ds : List Direction) : Bool :=
  let last := (ds.filter (· ≠ .mark)).getLast?
  match ds with
  | [] => true
  | .leftToRight :: _ =>
    ds.all (!·.isReversed) && last.any (· ∈ [.leftToRight, .digit])
  | .rightToLeft :: _ =>
    ds.all (· ≠ .leftToRight) && last.any (· ∈ [.rightToLeft, .digit, .arabicDigit]) &&
      !(ds.contains .digit && ds.contains .arabicDigit)
  | _ => false

/-- The labels of a name keep to one direction each, if that matters at all. -/
def keepDirections (labels : List (List Nat)) : Bool :=
  let all := labels.map (·.map direction)
  !(all.any (·.any Direction.isReversed)) || all.all keepsDirection

end Watchdesk.Domain

import RouteTable.Text.Category
import RouteTable.Text.Added

/-!
The directions of characters that can stand in domains.
-/

namespace RouteTable.Text

inductive Direction where
  | leftToRight
  | rightToLeft
  /-- A digit of the numerals that go from left to right wherever they stand. -/
  | europeanDigit
  /-- A digit of the numerals of a text that goes from right to left. -/
  | arabicDigit
  /-- A mark, which goes as the character before it. -/
  | mark
  | neutral
deriving DecidableEq

/-- Marks that take no room in a line. -/
def nonspacingPoints : CodePoints :=
  .unions [mnPoints, mePoints, addedExtendingPoints]

/-- The marks among them that have a direction of their own. -/
def directedMarkPoints : CodePoints := .ofNumerals
  [0x000CBF_000CBF, 0x000CC6_000CC6, 0x011A07_011A08, 0x011C3F_011C3F]

def europeanDigitPoints : CodePoints := .ofNumerals
  [0x000030_000039, 0x0006F0_0006F9, 0x0102E1_0102FB]

def arabicDigitPoints : CodePoints := .ofNumerals
  [0x000660_000669, 0x00066B_00066C, 0x010D30_010D39, 0x010E60_010E7E]

/-- Blocks in which every character that is no mark is neutral. -/
def neutralPoints : CodePoints := .ofNumerals
  [0x000000_000060, 0x00007B_0000D7, 0x0000F7_0000F7, 0x0002B9_0002BA, 0x0002C2_0002CF,
   0x0002D2_0002ED, 0x0002EF_0002FF, 0x000375_000375, 0x0003F6_0003F6, 0x00058A_00058F,
   0x000606_000607, 0x000609_00060A, 0x00060C_00060C, 0x00060E_00060F, 0x00066A_00066A,
   0x0006DE_0006DE, 0x0006E9_0006E9, 0x0007F6_0007F9, 0x0009F2_0009F3, 0x0009FB_0009FB,
   0x000AF1_000AF1, 0x000BF3_000BFA, 0x000C78_000C7E, 0x000E3F_000E3F, 0x000F3A_000F3D,
   0x001390_001399, 0x001400_001400, 0x00169B_00169C, 0x0017DB_0017DB, 0x0017F0_00180A,
   0x001940_001945, 0x0019DE_0019FF, 0x00200C_00214D, 0x00218A_002335, 0x00237B_002394,
   0x002396_0026AB, 0x0026AD_0027FF, 0x002900_002BFF, 0x002CE5_002CEA, 0x002CF9_002CFF,
   0x002E00_003004, 0x003008_003020, 0x003030_003030, 0x003037_003037, 0x00303D_00303F,
   0x0030A0_0030A0, 0x0030FB_0030FB, 0x0031C0_0031E5, 0x004DC0_004DFF, 0x00A490_00A4C6,
   0x00A60D_00A60F, 0x00A673_00A67F, 0x00A700_00A721, 0x00A788_00A788, 0x00A828_00A82B,
   0x00A838_00A839, 0x00A874_00A877, 0x00AB6A_00AB6B, 0x00FBC3_00FE46, 0x010101_010101,
   0x010140_01018C, 0x010190_0101A0, 0x01091F_01091F, 0x010B39_010B3F, 0x010D6E_010D6E,
   0x010ED1_010ED8, 0x011052_011065, 0x011660_01166C, 0x011FD5_011FF1, 0x016FE2_016FE2,
   0x01CC00_01CEF0, 0x01D1E9_01D245, 0x01D300_01D356, 0x01E2FF_01E2FF, 0x01EEF0_01F12F,
   0x01F16D_01F16F, 0x01F1AD_01F1AD, 0x01F260_01FBFA]

/-- Blocks in which every character goes from right to left if it is neither a mark nor a digit nor
neutral. -/
def rightToLeftPoints : CodePoints := .ofNumerals
  [0x0005BE_0008C9, 0x00FBB2_00FE73, 0x010800_010FF6, 0x01E800_01ED3D]

def direction (c : Char) : Direction :=
  let point := c.toNat
  if nonspacingPoints.holds point && !directedMarkPoints.holds point then .mark
  else if europeanDigitPoints.holds point then .europeanDigit
  else if arabicDigitPoints.holds point then .arabicDigit
  else if neutralPoints.holds point then .neutral
  else if rightToLeftPoints.holds point then .rightToLeft
  else .leftToRight

end RouteTable.Text

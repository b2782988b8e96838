import RouteTable.Text.Category
import RouteTable.Text.Listed

/-!
Properties of characters, most of them derived from the general categories and from lists, as
Unicode 16 derives them.
-/

namespace RouteTable.Text

/-- Colons and points between the letters of a word. -/
def midColonPoints : CodePoints := .ofNumerals
  [0x00003A_00003A, 0x0000B7_0000B7, 0x000387_000387, 0x00055F_00055F, 0x0005F4_0005F4,
   0x002027_002027, 0x00FE13_00FE13, 0x00FE55_00FE55, 0x00FF1A_00FF1A]

/-- The apostrophe between the letters of a word. -/
def singleQuotePoints : CodePoints := .single 0x27

/-- Stops and quotes between the letters or the digits of a word. -/
def midStopPoints : CodePoints := .ofNumerals
  [0x00002E_00002E, 0x002018_002019, 0x002024_002024, 0x00FE52_00FE52, 0x00FF07_00FF07,
   0x00FF0E_00FF0E]

def lowercasePoints : CodePoints := llPoints.union otherLowercasePoints

def uppercasePoints : CodePoints := luPoints.union otherUppercasePoints

def casedPoints : CodePoints := .unions [lowercasePoints, uppercasePoints, ltPoints]

def alphabeticPoints : CodePoints :=
  .unions [casedPoints, lmPoints, loPoints, nlPoints, otherAlphabeticPoints]

def mathPoints : CodePoints := smPoints.union otherMathPoints

def graphemeExtendPoints : CodePoints :=
  .unions [mnPoints, mePoints, otherGraphemeExtendPoints]

def graphemeBasePoints : CodePoints :=
  (CodePoints.unions [otherPoints, zlPoints, zpPoints, graphemeExtendPoints]).complement

/-- The characters that are not looked at when case is. -/
def caseIgnorablePoints : CodePoints :=
  .unions
    [mnPoints, mePoints, cfPoints, lmPoints, skPoints, midColonPoints, singleQuotePoints,
     midStopPoints]

def defaultIgnorablePoints : CodePoints :=
  (CodePoints.unions
      [cfPoints, variationSelectorPoints, otherDefaultIgnorablePoints]).difference
    (.unions
      [whiteSpacePoints, prependedConcatenationMarkPoints, .range 0xFFF9 0xFFFB,
       .range 0x13430 0x13440])

/-- What is kept for the syntax of patterns, and is in no identifier. -/
def patternPoints : CodePoints := patternSyntaxPoints.union patternWhiteSpacePoints

def idStartPoints : CodePoints :=
  (CodePoints.unions [letterPoints, nlPoints, otherIdStartPoints]).difference patternPoints

def idContinuePoints : CodePoints :=
  (CodePoints.unions
      [idStartPoints, mnPoints, mcPoints, ndPoints, pcPoints, otherIdContinuePoints]).difference
    patternPoints

/-- The starts of identifiers whose compatible decompositions start no identifier. -/
def decomposedStartPoints : CodePoints := .ofNumerals
  [0x00037A_00037A, 0x000E33_000E33, 0x000EB3_000EB3, 0x00309B_00309C, 0x00FC5E_00FC63,
   0x00FDFA_00FDFB, 0x00FE70_00FE70, 0x00FE72_00FE72, 0x00FE74_00FE74, 0x00FE76_00FE76,
   0x00FE78_00FE78, 0x00FE7A_00FE7A, 0x00FE7C_00FE7C, 0x00FE7E_00FE7E, 0x00FF9E_00FF9F]

/-- The parts of identifiers whose compatible decompositions are no parts of identifiers. -/
def decomposedContinuePoints : CodePoints := .ofNumerals
  [0x00037A_00037A, 0x00309B_00309C, 0x00FC5E_00FC63, 0x00FDFA_00FDFB, 0x00FE70_00FE70,
   0x00FE72_00FE72, 0x00FE74_00FE74, 0x00FE76_00FE76, 0x00FE78_00FE78, 0x00FE7A_00FE7A,
   0x00FE7C_00FE7C, 0x00FE7E_00FE7E]

def xidStartPoints : CodePoints := idStartPoints.difference decomposedStartPoints

def xidContinuePoints : CodePoints := idContinuePoints.difference decomposedContinuePoints

/-- Upper-case and title-case characters that are their own lower case. -/
def withoutLowercasePoints : CodePoints := .ofNumerals
  [0x0003D2_0003D4, 0x002102_002102, 0x002107_002107, 0x00210B_00210D, 0x002110_002112,
   0x002115_002115, 0x002119_00211D, 0x002124_002124, 0x002128_002128, 0x00212C_00212D,
   0x002130_002131, 0x002133_002133, 0x00213E_00213F, 0x002145_002145, 0x01D400_01D419,
   0x01D434_01D44D, 0x01D468_01D481, 0x01D49C_01D49C, 0x01D49E_01D49F, 0x01D4A2_01D4A2,
   0x01D4A5_01D4A6, 0x01D4A9_01D4AC, 0x01D4AE_01D4B5, 0x01D4D0_01D4E9, 0x01D504_01D505,
   0x01D507_01D50A, 0x01D50D_01D514, 0x01D516_01D51C, 0x01D538_01D539, 0x01D53B_01D53E,
   0x01D540_01D544, 0x01D546_01D546, 0x01D54A_01D550, 0x01D56C_01D585, 0x01D5A0_01D5B9,
   0x01D5D4_01D5ED, 0x01D608_01D621, 0x01D63C_01D655, 0x01D670_01D689, 0x01D6A8_01D6C0,
   0x01D6E2_01D6FA, 0x01D71C_01D734, 0x01D756_01D76E, 0x01D790_01D7A8, 0x01D7CA_01D7CA,
   0x01F130_01F149, 0x01F150_01F169, 0x01F170_01F189]

/-- Lower-case and title-case characters that are their own upper case. -/
def withoutUppercasePoints : CodePoints := .ofNumerals
  [0x0000AA_0000AA, 0x0000BA_0000BA, 0x000138_000138, 0x00018D_00018D, 0x0001AA_0001AB,
   0x0001BA_0001BA, 0x0001BE_0001BE, 0x000221_000221, 0x000234_000239, 0x000255_000255,
   0x000258_000258, 0x00025A_00025A, 0x00025D_00025F, 0x000262_000262, 0x000267_000267,
   0x00026D_00026E, 0x000270_000270, 0x000273_000274, 0x000276_00027C, 0x00027E_00027F,
   0x000281_000281, 0x000284_000286, 0x00028D_000291, 0x000293_000293, 0x000295_00029C,
   0x00029F_0002B8, 0x0002C0_0002C1, 0x0002E0_0002E4, 0x00037A_00037A, 0x0003FC_0003FC,
   0x000560_000560, 0x000588_000588, 0x0010FC_0010FC, 0x001D00_001D78, 0x001D7A_001D7C,
   0x001D7E_001D8D, 0x001D8F_001DBF, 0x001E9C_001E9D, 0x001E9F_001E9F, 0x002071_002071,
   0x00207F_00207F, 0x002090_00209C, 0x00210A_00210A, 0x00210E_00210F, 0x002113_002113,
   0x00212F_00212F, 0x002134_002134, 0x002139_002139, 0x00213C_00213D, 0x002146_002149,
   0x002C71_002C71, 0x002C74_002C74, 0x002C77_002C7D, 0x002CE4_002CE4, 0x00A69C_00A69D,
   0x00A730_00A731, 0x00A770_00A778, 0x00A78E_00A78E, 0x00A795_00A795, 0x00A7AF_00A7AF,
   0x00A7D3_00A7D3, 0x00A7D5_00A7D5, 0x00A7F2_00A7F4, 0x00A7F8_00A7FA, 0x00AB30_00AB52,
   0x00AB54_00AB5A, 0x00AB5C_00AB69, 0x010780_010780, 0x010783_010785, 0x010787_0107B0,
   0x0107B2_0107BA, 0x01D41A_01D433, 0x01D44E_01D454, 0x01D456_01D467, 0x01D482_01D49B,
   0x01D4B6_01D4B9, 0x01D4BB_01D4BB, 0x01D4BD_01D4C3, 0x01D4C5_01D4CF, 0x01D4EA_01D503,
   0x01D51E_01D537, 0x01D552_01D56B, 0x01D586_01D59F, 0x01D5BA_01D5D3, 0x01D5EE_01D607,
   0x01D622_01D63B, 0x01D656_01D66F, 0x01D68A_01D6A5, 0x01D6C2_01D6DA, 0x01D6DC_01D6E1,
   0x01D6FC_01D714, 0x01D716_01D71B, 0x01D736_01D74E, 0x01D750_01D755, 0x01D770_01D788,
   0x01D78A_01D78F, 0x01D7AA_01D7C2, 0x01D7C4_01D7C9, 0x01D7CB_01D7CB, 0x01DF00_01DF09,
   0x01DF0B_01DF1E, 0x01DF25_01DF2A, 0x01E030_01E06D]

/-- Characters that are their own title case, and not their own upper case. -/
def withoutTitlecasePoints : CodePoints := .ofNumerals
  [0x0001C5_0001C5, 0x0001C8_0001C8, 0x0001CB_0001CB, 0x0001F2_0001F2, 0x0010D0_0010FA,
   0x0010FD_0010FF, 0x001F88_001F8F, 0x001F98_001F9F, 0x001FA8_001FAF, 0x001FBC_001FBC,
   0x001FCC_001FCC, 0x001FFC_001FFC]

/-- Characters that are their own upper case, and not their own title case. -/
def otherTitlecasePoints : CodePoints := .ofNumerals
  [0x0001C4_0001C4, 0x0001C7_0001C7, 0x0001CA_0001CA, 0x0001F1_0001F1]

/-- Characters with a lower case that fold to themselves. -/
def foldedPoints : CodePoints := .ofNumerals [0x0013A0_0013F5]

/-- Characters without a lower case that do not fold to themselves. -/
def foldingPoints : CodePoints := .ofNumerals
  [0x0000B5_0000B5, 0x0000DF_0000DF, 0x000149_000149, 0x00017F_00017F, 0x000345_000345,
   0x0003C2_0003C2, 0x0003D0_0003D1, 0x0003D5_0003D6, 0x0003F0_0003F1, 0x0003F5_0003F5,
   0x000587_000587, 0x0013F8_0013FD, 0x001C80_001C88, 0x001E9A_001E9B, 0x001F80_001F87,
   0x001F90_001F97, 0x001FA0_001FA7, 0x001FB2_001FB4, 0x001FB7_001FB7, 0x001FC2_001FC4,
   0x001FC7_001FC7, 0x001FF2_001FF4, 0x001FF7_001FF7, 0x00AB70_00ABBF, 0x00FB00_00FB06,
   0x00FB13_00FB17]

def changesWhenLowercasedPoints : CodePoints :=
  (uppercasePoints.union ltPoints).difference withoutLowercasePoints

def changesWhenUppercasedPoints : CodePoints :=
  (lowercasePoints.union ltPoints).difference withoutUppercasePoints

def changesWhenTitlecasedPoints : CodePoints :=
  (changesWhenUppercasedPoints.difference withoutTitlecasePoints).union otherTitlecasePoints

def changesWhenCasefoldedPoints : CodePoints :=
  (changesWhenLowercasedPoints.difference foldedPoints).union foldingPoints

def changesWhenCasemappedPoints : CodePoints :=
  .unions
    [changesWhenLowercasedPoints, changesWhenUppercasedPoints, changesWhenTitlecasedPoints]

def binaryProperties : List NamedSet :=
  [⟨["alphabetic", "alpha"], alphabeticPoints⟩,
   ⟨["caseignorable", "ci"], caseIgnorablePoints⟩,
   ⟨["cased"], casedPoints⟩,
   ⟨["changeswhencasefolded", "cwcf"], changesWhenCasefoldedPoints⟩,
   ⟨["changeswhencasemapped", "cwcm"], changesWhenCasemappedPoints⟩,
   ⟨["changeswhenlowercased", "cwl"], changesWhenLowercasedPoints⟩,
   ⟨["changeswhentitlecased", "cwt"], changesWhenTitlecasedPoints⟩,
   ⟨["changeswhenuppercased", "cwu"], changesWhenUppercasedPoints⟩,
   ⟨["defaultignorablecodepoint", "di"], defaultIgnorablePoints⟩,
   ⟨["graphemebase", "grbase"], graphemeBasePoints⟩,
   ⟨["graphemeextend", "grext"], graphemeExtendPoints⟩,
   ⟨["idcontinue", "idc"], idContinuePoints⟩,
   ⟨["idstart", "ids"], idStartPoints⟩,
   ⟨["lowercase", "lower"], lowercasePoints⟩,
   ⟨["math"], mathPoints⟩,
   ⟨["uppercase", "upper"], uppercasePoints⟩,
   ⟨["xidcontinue", "xidc"], xidContinuePoints⟩,
   ⟨["xidstart", "xids"], xidStartPoints⟩] ++ listedProperties

end RouteTable.Text

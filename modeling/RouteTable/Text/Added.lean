import RouteTable.Text.CodePoints

/-!
The characters that Unicode 17 has and Unicode 16 has not.
-/

namespace RouteTable.Text

def addedLetterPoints : CodePoints := .ofNumerals
  [0x00088F_00088F, 0x000C5C_000C5C, 0x000CDC_000CDC, 0x00A7CE_00A7CF, 0x00A7D2_00A7D2,
   0x00A7D4_00A7D4, 0x00A7F1_00A7F1, 0x010940_010959, 0x010EC5_010EC7, 0x010EFA_010EFB,
   0x011B60_011B67, 0x011DB0_011DDB, 0x016EA0_016EB8, 0x016EBB_016ED3, 0x016FF2_016FF6,
   0x0187F8_0187FF, 0x018D09_018D1E, 0x018D80_018DF2, 0x01E6C0_01E6DE, 0x01E6E0_01E6F5,
   0x01E6FE_01E6FF, 0x02B73A_02B73F, 0x02CEA2_02CEAD, 0x0323B0_033479]

def addedNumeralPoints : CodePoints := .ofNumerals [0x011DE0_011DE9, 0x016FF4_016FF6]

/-- The added marks that are drawn together with the character before them. -/
def addedExtendingPoints : CodePoints := .ofNumerals
  [0x001ACF_001ADD, 0x001AE0_001AEB, 0x010EFA_010EFB, 0x011B60_011B60, 0x011B62_011B64,
   0x011B66_011B66, 0x01E6E3_01E6E3, 0x01E6E6_01E6E6, 0x01E6EE_01E6EF, 0x01E6F5_01E6F5]

/-- The added marks that take room of their own. -/
def addedSpacingPoints : CodePoints := .ofNumerals
  [0x011B61_011B61, 0x011B65_011B65, 0x011B67_011B67]

def addedPoints : CodePoints := .ofNumerals
  [0x00088F_00088F, 0x000C5C_000C5C, 0x000CDC_000CDC, 0x001ACF_001ADD, 0x001AE0_001AEB,
   0x0020C1_0020C1, 0x002B96_002B96, 0x00A7CE_00A7CF, 0x00A7D2_00A7D2, 0x00A7D4_00A7D4,
   0x00A7F1_00A7F1, 0x00FBC3_00FBD2, 0x00FD90_00FD91, 0x00FDC8_00FDCE, 0x010940_010959,
   0x010EC5_010EC7, 0x010ED0_010ED8, 0x010EFA_010EFB, 0x011B60_011B67, 0x011DB0_011DDB,
   0x011DE0_011DE9, 0x016EA0_016EB8, 0x016EBB_016ED3, 0x016FF2_016FF6, 0x0187F8_0187FF,
   0x018D09_018D1E, 0x018D80_018DF2, 0x01CCFA_01CCFC, 0x01CEBA_01CED0, 0x01CEE0_01CEF0,
   0x01E6C0_01E6DE, 0x01E6E0_01E6F5, 0x01E6FE_01E6FF, 0x01F6D8_01F6D8, 0x01F777_01F77A,
   0x01F8D0_01F8D8, 0x01FA54_01FA57, 0x01FA8A_01FA8A, 0x01FA8E_01FA8E, 0x01FAC8_01FAC8,
   0x01FACD_01FACD, 0x01FAEA_01FAEA, 0x01FAEF_01FAEF, 0x01FBFA_01FBFA, 0x02B73A_02B73F,
   0x02CEA2_02CEAD, 0x0323B0_033479]

end RouteTable.Text

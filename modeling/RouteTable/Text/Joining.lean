import RouteTable.Text.Direction

/-!
The letters that are written in one stroke with their neighbours.
-/

namespace RouteTable.Text

/-- The letters that are joined to the letters on both sides. -/
def dualJoiningPoints : CodePoints := .ofNumerals
  [0x000620_000620, 0x000626_000626, 0x000628_000628, 0x00062A_00062E, 0x000633_00063F,
   0x000641_000647, 0x000649_00064A, 0x00066E_00066F, 0x000679_000687, 0x00069A_0006BF,
   0x0006C1_0006C2, 0x0006CC_0006CC, 0x0006CE_0006CE, 0x0006D0_0006D1, 0x0006FA_0006FC,
   0x0006FF_0006FF, 0x000712_000714, 0x00071A_00071D, 0x00071F_000727, 0x000729_000729,
   0x00072B_00072B, 0x00072D_00072E, 0x00074E_000758, 0x00075C_00076A, 0x00076D_000770,
   0x000772_000772, 0x000775_000777, 0x00077A_00077F, 0x0007CA_0007EA, 0x000841_000845,
   0x000848_000848, 0x00084A_000853, 0x000855_000855, 0x000860_000860, 0x000862_000865,
   0x000868_000868, 0x000886_000886, 0x000889_00088D, 0x00088F_0008A9, 0x0008AF_0008B0,
   0x0008B3_0008B8, 0x0008BA_0008C8, 0x001807_001807, 0x001820_001878, 0x001887_0018AA,
   0x00A840_00A871, 0x010AC0_010AC4, 0x010AD3_010AD6, 0x010AD8_010ADC, 0x010ADE_010AE0,
   0x010AEB_010AEE, 0x010B80_010B80, 0x010B82_010B82, 0x010B86_010B88, 0x010B8A_010B8B,
   0x010B8D_010B8D, 0x010B90_010B90, 0x010BAD_010BAE, 0x010D01_010D21, 0x010D23_010D23,
   0x010EC3_010EC4, 0x010EC6_010EC7, 0x010F30_010F32, 0x010F34_010F44, 0x010F51_010F53,
   0x010F70_010F73, 0x010F76_010F81, 0x010FB0_010FB0, 0x010FB2_010FB3, 0x010FB8_010FB8,
   0x010FBB_010FBC, 0x010FBE_010FBF, 0x010FC1_010FC1, 0x010FC4_010FC4, 0x010FCA_010FCA,
   0x01E922_01E943]

/-- The letters that are joined to the letter on their right only. -/
def rightJoiningPoints : CodePoints := .ofNumerals
  [0x000622_000625, 0x000627_000627, 0x000629_000629, 0x00062F_000632, 0x000648_000648,
   0x000671_000673, 0x000688_000699, 0x0006C0_0006C0, 0x0006C3_0006CB, 0x0006CD_0006CD,
   0x0006CF_0006CF, 0x0006D2_0006D3, 0x0006D5_0006D5, 0x0006EE_0006EF, 0x000710_000710,
   0x000715_000719, 0x00071E_00071E, 0x000728_000728, 0x00072A_00072A, 0x00072C_00072C,
   0x00072F_00074D, 0x000759_00075B, 0x00076B_00076C, 0x000771_000771, 0x000773_000774,
   0x000778_000779, 0x000840_000840, 0x000846_000847, 0x000849_000849, 0x000854_000854,
   0x000856_000858, 0x000867_000867, 0x000869_000882, 0x00088E_00088E, 0x0008AA_0008AC,
   0x0008AE_0008AE, 0x0008B1_0008B2, 0x0008B9_0008B9, 0x010AC5_010AC5, 0x010AC7_010AC7,
   0x010AC9_010ACA, 0x010ACE_010AD2, 0x010ADD_010ADD, 0x010AE1_010AE1, 0x010AE4_010AE4,
   0x010AEF_010AEF, 0x010B81_010B81, 0x010B83_010B85, 0x010B89_010B89, 0x010B8C_010B8C,
   0x010B8E_010B8F, 0x010B91_010B91, 0x010BA9_010BAC, 0x010D22_010D22, 0x010EC2_010EC2,
   0x010F33_010F33, 0x010F54_010F54, 0x010F74_010F75, 0x010FB4_010FB6, 0x010FB9_010FBA,
   0x010FBD_010FBD, 0x010FC2_010FC3, 0x010FC9_010FC9]

/-- The letters that are joined to the letter on their left only. -/
def leftJoiningPoints : CodePoints := .ofNumerals
  [0x00A872_00A872, 0x010ACD_010ACD, 0x010AD7_010AD7, 0x010D00_010D00, 0x010FCB_010FCB]

/-- What stands between two letters that are joined. -/
def transparentPoints : CodePoints :=
  nonspacingPoints.union (.single 0x01E94B)

end RouteTable.Text

import RouteTable.Text.Script
import RouteTable.Text.Property

/-!
Classes of characters by which texts are divided, of Unicode 16.
-/

namespace RouteTable.Text

/-- Sets in order, each without the characters of those before it. -/
def classified : List NamedSet → List NamedSet
  | [] => []
  | set :: rest => set :: (classified rest).map fun other =>
      ⟨other.names, other.points.difference set.points⟩

/-- Letters and signs that belong to the character after them. -/
def prependedPoints : CodePoints := .ofNumerals
  [0x000600_000605, 0x0006DD_0006DD, 0x00070F_00070F, 0x000890_000891, 0x0008E2_0008E2,
   0x000D4E_000D4E, 0x0110BD_0110BD, 0x0110CD_0110CD, 0x0111C2_0111C3, 0x0113D1_0113D1,
   0x01193F_01193F, 0x011941_011941, 0x011A3A_011A3A, 0x011A84_011A89, 0x011D46_011D46,
   0x011F02_011F02]

/-- Spacing marks that do not belong to the character before them. -/
def unattachedPoints : CodePoints := .ofNumerals
  [0x00102B_00102C, 0x001038_001038, 0x001062_001064, 0x001067_00106D, 0x001083_001083,
   0x001087_00108C, 0x00108F_00108F, 0x00109A_00109C, 0x001A61_001A61, 0x001A63_001A64,
   0x00AA7B_00AA7B, 0x00AA7D_00AA7D, 0x011720_011721]

/-- The first consonants of syllables of Hangul. -/
def hangulLeadPoints : CodePoints := .ofNumerals [0x001100_00115F, 0x00A960_00A97C]

def hangulVowelPoints : CodePoints := .ofNumerals
  [0x001160_0011A7, 0x00D7B0_00D7C6, 0x016D63_016D63, 0x016D67_016D6A]

/-- The last consonants of syllables of Hangul. -/
def hangulTrailPoints : CodePoints := .ofNumerals [0x0011A8_0011FF, 0x00D7CB_00D7FB]

/-- The syllables of Hangul that end in a vowel: each is followed by 27 that end in a consonant. -/
def hangulOpenPoints : CodePoints :=
  ⟨(List.range 399).map fun i => ⟨0xAC00 + 28 * i, 0xAC00 + 28 * i⟩⟩

/-- The classes of characters by which a text is divided into characters as readers see them. -/
def graphemeBreaks : List NamedSet :=
  classified
    [⟨["cr"], .single 0x0D⟩,
     ⟨["lf"], .single 0x0A⟩,
     ⟨["zwj"], .single 0x200D⟩,
     ⟨["pp", "prepend"], prependedPoints⟩,
     ⟨["ex", "extend"], graphemeExtendPoints.union emojiModifierPoints⟩,
     ⟨["cn", "control"],
      .unions
        [zlPoints, zpPoints, ccPoints, cfPoints, cnPoints.intersection defaultIgnorablePoints]⟩,
     ⟨["ri", "regionalindicator"], regionalIndicatorPoints⟩,
     ⟨["v"], hangulVowelPoints⟩,
     ⟨["sm", "spacingmark"],
      (mcPoints.difference unattachedPoints).union
        (.ofNumerals [0x000E33_000E33, 0x000EB3_000EB3])⟩,
     ⟨["l"], hangulLeadPoints⟩,
     ⟨["t"], hangulTrailPoints⟩,
     ⟨["lv"], hangulOpenPoints⟩,
     ⟨["lvt"], .range 0xAC00 0xD7A3⟩]

/-- Signs before a number that are written under or over it. -/
def numberSignPoints : CodePoints := .ofNumerals
  [0x000600_000605, 0x0006DD_0006DD, 0x000890_000891, 0x0008E2_0008E2, 0x0110BD_0110BD,
   0x0110CD_0110CD]

/-- Letters of scripts that put no spaces between words. -/
def complexContextPoints : CodePoints := .ofNumerals
  [0x000E01_000E30, 0x000E32_000E33, 0x000E40_000E46, 0x000E81_000E82, 0x000E84_000E84,
   0x000E86_000E8A, 0x000E8C_000EA3, 0x000EA5_000EA5, 0x000EA7_000EB0, 0x000EB2_000EB3,
   0x000EBD_000EBD, 0x000EC0_000EC4, 0x000EC6_000EC6, 0x000EDC_000EDF, 0x001000_00102A,
   0x00103F_00103F, 0x001050_001055, 0x00105A_00105D, 0x001061_001061, 0x001065_001066,
   0x00106E_001070, 0x001075_001081, 0x00108E_00108E, 0x001780_0017B3, 0x0017D7_0017D7,
   0x0017DC_0017DC, 0x001950_00196D, 0x001970_001974, 0x001980_0019AB, 0x0019B0_0019C9,
   0x001A20_001A54, 0x001AA7_001AA7, 0x00A9E0_00A9E4, 0x00A9E6_00A9EF, 0x00A9FA_00A9FE,
   0x00AA60_00AA76, 0x00AA7A_00AA7A, 0x00AA7E_00AAAF, 0x00AAB1_00AAB1, 0x00AAB5_00AAB6,
   0x00AAB9_00AABD, 0x00AAC0_00AAC0, 0x00AAC2_00AAC2, 0x00AADB_00AADD, 0x011700_01171A,
   0x011740_011746]

/-- Characters of words that are not alphabetic. -/
def otherLetterPoints : CodePoints := .ofNumerals
  [0x0000B8_0000B8, 0x0002C2_0002C5, 0x0002D2_0002D7, 0x0002DE_0002DF, 0x0002E5_0002EB,
   0x0002ED_0002ED, 0x0002EF_0002FF, 0x00055A_00055C, 0x00055E_00055E, 0x00058A_00058A,
   0x0005F3_0005F3, 0x00070F_00070F, 0x00A708_00A716, 0x00A720_00A721, 0x00A789_00A78A,
   0x00AB5B_00AB5B]

/-- Characters between the digits of a number. -/
def midNumberPoints : CodePoints := .ofNumerals
  [0x00002C_00002C, 0x00003B_00003B, 0x00037E_00037E, 0x000589_000589, 0x00060C_00060D,
   0x00066C_00066C, 0x0007F8_0007F8, 0x002044_002044, 0x00FE10_00FE10, 0x00FE14_00FE14,
   0x00FE50_00FE50, 0x00FE54_00FE54, 0x00FF0C_00FF0C, 0x00FF1B_00FF1B]

/-- Spaces at which a line may be broken. -/
def wordSpacePoints : CodePoints := .ofNumerals
  [0x000020_000020, 0x001680_001680, 0x002000_002006, 0x002008_00200A, 0x00205F_00205F,
   0x003000_003000]

/-- Marks, and what else is taken together with the character before it. -/
def attachedPoints : CodePoints :=
  .unions [graphemeExtendPoints, mcPoints, emojiModifierPoints]

/-- The invisible characters that do not break words. -/
def formatPoints : CodePoints :=
  cfPoints.difference (numberSignPoints.union (.range 0x200C 0x200D))

/-- The classes of characters by which a text is divided into words. -/
def wordBreaks : List NamedSet :=
  classified
    [⟨["cr"], .single 0x0D⟩,
     ⟨["lf"], .single 0x0A⟩,
     ⟨["nl", "newline"],
      .ofNumerals [0x00000B_00000C, 0x000085_000085, 0x002028_002029]⟩,
     ⟨["zwj"], .single 0x200D⟩,
     ⟨["extend"], attachedPoints⟩,
     ⟨["ri", "regionalindicator"], regionalIndicatorPoints⟩,
     ⟨["fo", "format"],
      formatPoints.difference (.ofNumerals [0x00070F_00070F, 0x00200B_00200B])⟩,
     ⟨["ka", "katakana"],
      katakanaPoints.union
        (.ofNumerals
          [0x003031_003035, 0x00309B_00309C, 0x0030A0_0030A0, 0x0030FC_0030FC, 0x00FF70_00FF70])⟩,
     ⟨["hl", "hebrewletter"], hebrewPoints.intersection loPoints⟩,
     ⟨["le", "aletter"],
      (alphabeticPoints.union otherLetterPoints).difference
        (.unions [ideographicPoints, complexContextPoints, hiraganaPoints])⟩,
     ⟨["sq", "singlequote"], singleQuotePoints⟩,
     ⟨["dq", "doublequote"], .single 0x22⟩,
     ⟨["mb", "midnumlet"], midStopPoints⟩,
     ⟨["ml", "midletter"], midColonPoints⟩,
     ⟨["mn", "midnum"], midNumberPoints⟩,
     ⟨["nu", "numeric"], .unions [ndPoints, .single 0x66B, numberSignPoints]⟩,
     ⟨["ex", "extendnumlet"], pcPoints.union (.single 0x202F)⟩,
     ⟨["wsegspace"], wordSpacePoints⟩]

/-- Characters after which a sentence goes on. -/
def sentenceContinuePoints : CodePoints := .ofNumerals
  [0x00002C_00002D, 0x00003A_00003B, 0x00037E_00037E, 0x00055D_00055D, 0x00060C_00060D,
   0x0007F8_0007F8, 0x001802_001802, 0x001808_001808, 0x002013_002014, 0x003001_003001,
   0x00FE10_00FE11, 0x00FE13_00FE14, 0x00FE31_00FE32, 0x00FE50_00FE51, 0x00FE54_00FE55,
   0x00FE58_00FE58, 0x00FE63_00FE63, 0x00FF0C_00FF0D, 0x00FF1A_00FF1B, 0x00FF64_00FF64]

/-- Quotation marks that are no opening or closing punctuation. -/
def otherClosePoints : CodePoints := .ofNumerals
  [0x000022_000022, 0x000027_000027, 0x00275B_002760, 0x002E00_002E01, 0x002E06_002E08,
   0x002E0B_002E0B, 0x01F676_01F678]

/-- The classes of characters by which a text is divided into sentences. -/
def sentenceBreaks : List NamedSet :=
  classified
    [⟨["cr"], .single 0x0D⟩,
     ⟨["lf"], .single 0x0A⟩,
     ⟨["ex", "extend"], attachedPoints.union (.single 0x200D)⟩,
     ⟨["se", "sep"], .ofNumerals [0x000085_000085, 0x002028_002029]⟩,
     ⟨["fo", "format"], formatPoints⟩,
     ⟨["sp"], whiteSpacePoints⟩,
     ⟨["lo", "lower"],
      lowercasePoints.difference (.ofNumerals [0x0010D0_0010FA, 0x0010FD_0010FF])⟩,
     ⟨["up", "upper"],
      ltPoints.union
        (uppercasePoints.difference (.ofNumerals [0x001C90_001CBA, 0x001CBD_001CBF]))⟩,
     ⟨["le", "oletter"],
      alphabeticPoints.union (.ofNumerals [0x0000A0_0000A0, 0x0005F3_0005F3])⟩,
     ⟨["nu", "numeric"],
      .unions
        [ndPoints.difference (.range 0xFF10 0xFF19), .range 0x66B 0x66C, numberSignPoints]⟩,
     ⟨["at", "aterm"],
      .ofNumerals [0x00002E_00002E, 0x002024_002024, 0x00FE52_00FE52, 0x00FF0E_00FF0E]⟩,
     ⟨["st", "sterm"], sentenceTerminalPoints⟩,
     ⟨["sc", "scontinue"], sentenceContinuePoints⟩,
     ⟨["cl", "close"], .unions [psPoints, pePoints, piPoints, pfPoints, otherClosePoints]⟩]

end RouteTable.Text

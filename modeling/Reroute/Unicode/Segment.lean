import Reroute.Unicode.Property

/-!
How characters stand at the bounds of grapheme clusters, words and sentences.
-/

namespace Reroute.Unicode.Segment

/-- The first syllable of every row of Hangul: those without a final consonant. -/
def openSyllables : CharSet :=
  .ofRanges ((List.range 399).map fun row => (0xAC00 + 28 * row, 0xAC00 + 28 * row))

def closedSyllables : CharSet := CharSet.difference ⟨[(0xAC00, 0xD7A3)]⟩ openSyllables

/-- The classes of characters at the bounds of grapheme clusters, less the Hangul syllables. -/
def graphemeClasses : List Property := [
  { name := "CR", further := ["D"] },
  { name := "LF", further := ["A"] },
  { name := "Control", aliases := ["CN"], categories := ["Zl", "Zp", "Cc", "Cf"]
    further := [
      "2065 FFF0-FFF8 E0000 E0002-E001F E0080-E00FF E01F0-E0FFF"]
    except := [
      "A D 600-605 6DD 70F 890-891 8E2 200C-200D 110BD 110CD E0020-E007F"] },
  { name := "Extend", aliases := ["EX"], properties := ["Grapheme_Extend", "Emoji_Modifier"] },
  { name := "L", further := ["1100-115F A960-A97C"] },
  { name := "V", further := ["1160-11A7 D7B0-D7C6 16D63 16D67-16D6A"] },
  { name := "T", further := ["11A8-11FF D7CB-D7FB"] },
  { name := "Prepend", aliases := ["PP"], properties := ["Prepended_Concatenation_Mark"]
    further := [
      "D4E 111C2-111C3 113D1 1193F 11941 11A3A 11A84-11A89 11D46 11F02"] },
  { name := "Regional_Indicator", aliases := ["RI"], properties := ["Regional_Indicator"] },
  { name := "SpacingMark", aliases := ["SM"], categories := ["Mc"]
    further := [
      "E33 EB3"]
    except := [
      "9BE 9D7 B3E B57 BBE BD7 CC0 CC2 CC7-CC8 CCA-CCB CD5-CD6 D3E D57 DCF DDF 102B-102C",
      "1038 1062-1064 1067-106D 1083 1087-108C 108F 109A-109C 1715 1734 1A61 1A63-1A64 1B35",
      "1B3B 1B3D 1B43-1B44 1BAA 1BF2-1BF3 302E-302F A953 A9C0 AA7B AA7D 111C0 11235 1133E",
      "1134D 11357 113B8 113C2 113C5 113C7-113C9 113CF 114B0 114BD 115AF 116B6 11720-11721",
      "11930 1193D 11F41 16FF0-16FF1 1D165-1D166 1D16D-1D172"] },
  { name := "ZWJ", further := ["200D"] }]

def wordClasses : List Property := [
  { name := "CR", further := ["D"] },
  { name := "LF", further := ["A"] },
  { name := "Newline", aliases := ["NL"], further := ["B-C 85 2028-2029"] },
  { name := "ALetter", aliases := ["LE"], categories := ["Lu", "Ll", "Lt", "Lm", "Lo", "Nl"]
    further := [
      "2C2-2C5 2D2-2D7 2DE-2DF 2E5-2EB 2ED 2EF-2FF 55A-55C 55E 58A 5F3 70F 24B6-24E9",
      "A708-A716 A720-A721 A789-A78A AB5B 1F130-1F149 1F150-1F169 1F170-1F189"]
    except := [
      "5D0-5EA 5EF-5F2 E01-E30 E32-E33 E40-E46 E81-E82 E84 E86-E8A E8C-EA3 EA5 EA7-EB0",
      "EB2-EB3 EBD EC0-EC4 EC6 EDC-EDF 1000-102A 103F 1050-1055 105A-105D 1061 1065-1066",
      "106E-1070 1075-1081 108E 1780-17B3 17D7 17DC 1950-196D 1970-1974 1980-19AB 19B0-19C9",
      "1A20-1A54 1AA7 3006-3007 3021-3029 3031-3035 3038-303A 3041-3096 309D-309F 30A1-30FA",
      "30FC-30FF 31F0-31FF 3400-4DBF 4E00-9FFF A9E0-A9E4 A9E6-A9EF A9FA-A9FE AA60-AA76 AA7A",
      "AA7E-AAAF AAB1 AAB5-AAB6 AAB9-AABD AAC0 AAC2 AADB-AADD F900-FA6D FA70-FAD9 FB1D",
      "FB1F-FB28 FB2A-FB36 FB38-FB3C FB3E FB40-FB41 FB43-FB44 FB46-FB4F FF66-FF9F",
      "11700-1171A 11740-11746 17000-187F7 18800-18CD5 18CFF-18D08 1AFF0-1AFF3 1AFF5-1AFFB",
      "1AFFD-1AFFE 1B000-1B122 1B132 1B150-1B152 1B155 1B164-1B167 1B170-1B2FB 20000-2A6DF",
      "2A700-2B739 2B740-2B81D 2B820-2CEA1 2CEB0-2EBE0 2EBF0-2EE5D 2F800-2FA1D 30000-3134A",
      "31350-323AF"] },
  { name := "Double_Quote", aliases := ["DQ"], further := ["22"] },
  { name := "Single_Quote", aliases := ["SQ"], further := ["27"] },
  { name := "Extend", categories := ["Mc"], properties := ["Grapheme_Extend", "Emoji_Modifier"] },
  { name := "ExtendNumLet", aliases := ["EX"], categories := ["Pc"], further := ["202F"] },
  { name := "Format", aliases := ["FO"], categories := ["Cf"]
    except := [
      "600-605 6DD 70F 890-891 8E2 200B-200D 110BD 110CD E0020-E007F"] },
  { name := "Hebrew_Letter", aliases := ["HL"]
    further := [
      "5D0-5EA 5EF-5F2 FB1D FB1F-FB28 FB2A-FB36 FB38-FB3C FB3E FB40-FB41 FB43-FB44",
      "FB46-FB4F"] },
  { name := "Katakana", aliases := ["KA"]
    further := [
      "3031-3035 309B-309C 30A0-30FA 30FC-30FF 31F0-31FF 32D0-32FE 3300-3357 FF66-FF9D",
      "1AFF0-1AFF3 1AFF5-1AFFB 1AFFD-1AFFE 1B000 1B120-1B122 1B155 1B164-1B167"] },
  { name := "MidLetter", aliases := ["ML"], further := ["3A B7 387 55F 5F4 2027 FE13 FE55 FF1A"] },
  { name := "MidNum", aliases := ["MN"]
    further := [
      "2C 3B 37E 589 60C-60D 66C 7F8 2044 FE50 FE54 FF0C FF1B"] },
  { name := "MidNumLet", aliases := ["MB"], further := ["2E 2018-2019 2024 FE52 FF07 FF0E"] },
  { name := "Numeric", aliases := ["NU"], categories := ["Nd"]
    further := [
      "600-605 66B 6DD 890-891 8E2 110BD 110CD"] },
  { name := "Regional_Indicator", aliases := ["RI"], properties := ["Regional_Indicator"] },
  { name := "WSegSpace", further := ["20 1680 2000-2006 2008-200A 205F 3000"] },
  { name := "ZWJ", further := ["200D"] }]

def sentenceClasses : List Property := [
  { name := "CR", further := ["D"] },
  { name := "LF", further := ["A"] },
  { name := "ATerm", aliases := ["AT"], further := ["2E 2024 FE52 FF0E"] },
  { name := "Close", aliases := ["CL"], categories := ["Ps", "Pe", "Pi", "Pf"]
    properties := ["Quotation_Mark"]
    further := [
      "275B-2760 2E00-2E01 2E06-2E08 2E0B 1F676-1F678"]
    except := [
      "FF02 FF07"] },
  { name := "Extend", aliases := ["EX"], categories := ["Mc"], properties := ["Grapheme_Extend"]
    further := [
      "200D"] },
  { name := "Format", aliases := ["FO"], categories := ["Cf"]
    except := [
      "600-605 6DD 890-891 8E2 200C-200D 110BD 110CD E0020-E007F"] },
  { name := "Lower", aliases := ["LO"], properties := ["Lowercase"]
    except := [
      "345 10D0-10FA 10FD-10FF"] },
  { name := "Numeric", aliases := ["NU"], categories := ["Nd"]
    further := [
      "600-605 66B-66C 6DD 890-891 8E2 110BD 110CD"] },
  { name := "OLetter", aliases := ["LE"], categories := ["Lo", "Lm", "Nl"]
    further := [
      "5F3 10D0-10FA 10FD-10FF 1C90-1CBA 1CBD-1CBF"]
    except := [
      "AA BA 2B0-2B8 2C0-2C1 2E0-2E4 37A 10FC 1D2C-1D6A 1D78 1D9B-1DBF 2071 207F 2090-209C",
      "2160-217F 2C7C-2C7D A69C-A69D A770 A7F2-A7F4 A7F8-A7F9 AB5C-AB5F AB69 FF9E-FF9F",
      "10780 10783-10785 10787-107B0 107B2-107BA 1E030-1E06D"] },
  { name := "SContinue", aliases := ["SC"]
    further := [
      "2C-2D 3A-3B 37E 55D 60C-60D 7F8 1802 1808 2013-2014 3001 FE10-FE11 FE13-FE14",
      "FE31-FE32 FE50-FE51 FE54-FE55 FE58 FE63 FF0C-FF0D FF1A-FF1B FF64"] },
  { name := "STerm", aliases := ["ST"], properties := ["Sentence_Terminal"]
    except := [
      "2E 2024 FE52 FF0E"] },
  { name := "Sep", aliases := ["SE"], further := ["85 2028-2029"] },
  { name := "Sp", aliases := ["SP"], categories := ["Zs"], further := ["9 B-C"] },
  { name := "Upper", aliases := ["UP"], categories := ["Lt"], properties := ["Uppercase"]
    except := [
      "1C90-1CBA 1CBD-1CBF"] }]

def chars (p : Property) : CharSet :=
  ((Property.charsOf Property.table [p]).lookup p.name).getD .empty

end Reroute.Unicode.Segment

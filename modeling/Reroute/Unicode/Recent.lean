import Reroute.Unicode.Casing
import Reroute.Unicode.CharSet

/-!
The characters that the newest version of the character set adds.

Classes of characters in patterns leave them out. The comparison of texts without regard to case,
the names of groups and texts in quotes take them in.
-/

namespace Reroute.Unicode.Recent

def lowerShifts : List Casing.Shift := [
  (0xA7CE, 0xA7CE, 1, 1), (0xA7D2, 0xA7D4, 2, 1), (0x16EA0, 0x16EB8, 1, 27)]

def cased : CharSet := .ofLines ["A7CE-A7CF A7D2 A7D4 A7F1 16EA0-16EB8 16EBB-16ED3"]

/-- The characters that lost their case: the pharyngeal voiced fricative is a letter of one form. -/
def uncased : CharSet := .ofLines ["295"]

def caseIgnorable : CharSet := .ofLines [
  "1ACF-1ADD 1AE0-1AEB A7F1 10EC5 10EFA-10EFB 11B60 11B62-11B64 11B66 11DD9 16FF2-16FF3",
  "1E6E3 1E6E6 1E6EE-1E6EF 1E6F5 1E6FF"]

def alphabetic : CharSet := .ofLines [
  "88F C5C CDC A7CE-A7CF A7D2 A7D4 A7F1 10940-10959 10EC5-10EC7 10EFA-10EFB 11B60-11B67",
  "11DB0-11DDB 16EA0-16EB8 16EBB-16ED3 16FF2-16FF6 187F8-187FF 18D09-18D1E 18D80-18DF2",
  "1E6C0-1E6DE 1E6E0-1E6F5 1E6FE-1E6FF 2B73A-2B73F 2CEA2-2CEAD 323B0-33479"]

def numeric : CharSet := .ofLines ["11DE0-11DE9 16FF4-16FF6"]

def visible : CharSet := .ofLines [
  "88F C5C CDC 20C1 2B96 A7CE-A7CF A7D2 A7D4 A7F1 FBC3-FBD2 FD90-FD91 FDC8-FDCE 10940-10959",
  "10EC5-10EC7 10ED0-10ED8 11B61 11B65 11B67 11DB0-11DDB 11DE0-11DE9 16EA0-16EB8 16EBB-16ED3",
  "16FF2-16FF6 187F8-187FF 18D09-18D1E 18D80-18DF2 1CCFA-1CCFC 1CEBA-1CED0 1CEE0-1CEF0",
  "1E6C0-1E6DE 1E6E0-1E6E2 1E6E4-1E6E5 1E6E7-1E6ED 1E6F0-1E6F4 1E6FE-1E6FF 1F6D8 1F777-1F77A",
  "1F8D0-1F8D8 1FA54-1FA57 1FA8A 1FA8E 1FAC8 1FACD 1FAEA 1FAEF 1FBFA 2B73A-2B73F 2CEA2-2CEAD",
  "323B0-33479"]

end Reroute.Unicode.Recent

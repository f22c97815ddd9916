import GrammarCheck.Unicode.RangeSet

/-! What the edition after the one of the other tables adds. Patterns know the earlier edition alone; case, quoting
and names of groups follow the later one. -/

namespace GrammarCheck.Unicode.Later

def assigned : RangeSet := .ofTable
  "88F C5C CDC 1ACF-1ADD 1AE0-1AEB 20C1 2B96 A7CE-A7CF A7D2 A7D4 A7F1 FBC3-FBD2 FD90-FD91
    FDC8-FDCE 10940-10959 10EC5-10EC7 10ED0-10ED8 10EFA-10EFB 11B60-11B67 11DB0-11DDB
    11DE0-11DE9 16EA0-16EB8 16EBB-16ED3 16FF2-16FF6 187F8-187FF 18D09-18D1E 18D80-18DF2
    1CCFA-1CCFC 1CEBA-1CED0 1CEE0-1CEF0 1E6C0-1E6DE 1E6E0-1E6F5 1E6FE-1E6FF 1F6D8 1F777-1F77A
    1F8D0-1F8D8 1FA54-1FA57 1FA8A 1FA8E 1FAC8 1FACD 1FAEA 1FAEF 1FBFA 2B73A-2B73F 2CEA2-2CEAD
    323B0-33479"

def alphabetic : RangeSet := .ofTable
  "88F C5C CDC A7CE-A7CF A7D2 A7D4 A7F1 10940-10959 10EC5-10EC7 10EFA-10EFB 11B60-11B67
    11DB0-11DDB 16EA0-16EB8 16EBB-16ED3 16FF2-16FF6 187F8-187FF 18D09-18D1E 18D80-18DF2
    1E6C0-1E6DE 1E6E0-1E6F5 1E6FE-1E6FF 2B73A-2B73F 2CEA2-2CEAD 323B0-33479"

def numeric : RangeSet := .ofTable
  "11DE0-11DE9 16FF4-16FF6"

def cased : RangeSet := .ofTable
  "A7CE-A7CF A7D2 A7D4 A7F1 16EA0-16EB8 16EBB-16ED3"

/-- Has case in the earlier edition alone. -/
def caseless : RangeSet := .single 0x295

def caseIgnorable : RangeSet := .ofTable
  "1ACF-1ADD 1AE0-1AEB A7F1 10EC5 10EFA-10EFB 11B60 11B62-11B64 11B66 11DD9 16FF2-16FF3 1E6E3
    1E6E6 1E6EE-1E6EF 1E6F5 1E6FF"

def graphemeExtend : RangeSet := .ofTable
  "1ACF-1ADD 1AE0-1AEB 10EFA-10EFB 11B60 11B62-11B64 11B66 1E6E3 1E6E6 1E6EE-1E6EF 1E6F5"

end GrammarCheck.Unicode.Later

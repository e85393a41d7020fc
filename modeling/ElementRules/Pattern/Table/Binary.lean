import ElementRules.Pattern.Table

/-!
Character properties that a code point has or has not: the names of each, without separators and
in lower case, and its table.
-/

namespace ElementRules.Pattern

def asciiHexDigitSet : CharSet := .decode
  ["hQKHGaG"]

def alphabeticSet : CharSet := .decode
  ["iBaGahPBKBEBFXBfBuKEMOFHBBBiWBdSBCCEBBGBBDBBBUBiTBkLIlGBhGCBGhJhHOBBBCBCBBIbEEdLFhYBHOjGBIEI",
   "EDKDCBQhQNjFYhBJCEBFYCTTZHLFYBGIBIhKKMDHGiMBQBDEPNTBICCCWBHBBDEDICCCCBBIBECBFMCKBEDBGECCWBHB",
   "CBCBCEFECCCEBHEBBRGLDBJBDBWBHBCBFDJBDBCDBPEVEEDBICCCWBHBCBFDICCCCJCECBFNBQCBGDDBEDCBBBCDCDDD",
   "MEFDDBDDBGBhINBDBXBQDIBDBDICBDCBCEcEBIBDBXBKBFDIBDBDICGCBENDMNBDBhJCIBDBDBBFEHFWGBDBSDYBJBBC",
   "HIGBBBISCNhaFHGBhTCBBBFBYBBBTBDCFBBGBOEhABhfIBhEETEQBhEiDhXBBCFQiAKEChGBBFBChLBqNBECHBBBEChJ",
   "BEChBBECHBBBECPBhZBECiDhFQQiWCGDzMCRBaFiLDLHULVMUMNBDBCMhUCTOBEBiDiZHhLFiGKfBMEJXeCFLhMEahWc",
   "EhfCUhSBXCLDhRhUBPBIhThKCEKhMBLOhXWDKhECLFhLCDhJEBGBCDBFmAThCLoWCGChGCGCIBBBBBBBfChVBHBBDDBH",
   "DECGENFDBHjUBNBQNjFBEBCKBBDFGBBBBBBEBLCEFFEBRhJ5NhUh4WnFGEDCMhGBBFBChYHBQXJHBHBHBHBHBHBHBHBh",
   "AhPBuVDZJHFCFEiWGDBiaBEFhLBieRhAhQQwAmuAiA10NiDhOCoNDQKCUhPFIDjRhHJCjHCiDCCBBBIVUBhBYhUMiEBB",
   "hMGDBBDKhBFhDNdDhTBMPBQQKFBhXJOSXDiFBBBBYDCQCELGCGCGJHBHBhLBOGjbVq9EMXEhRooErOCjKhGHMFFMBNBF",
   "BBBCBCBjMhBrLSiAChWhIMjUFBkHhEaGaLiZDGCGCGCDhDMBaBTBCBPCOhCjbiFhVoLdDhRhPhANeFhLFeChEEIBFhKk",
   "eShEEhEEhIIhUMLBPBHBCBLBPBHBCDhUMpXJWKIYGBhKBJiFGCBBhMBCDBCXKXJfiBTBCKWKaiGhYGCiAEBCFIBDBdhK",
   "dDdhDIBcbhWKWKTNSjOiJhXhTNhTNhIhCcDBFXnahKBCDCQDhXBDdKBIWhKShOVbXJiGhLFKhZJBNZXhTREIhDDBJiAB",
   "EJCKBBBhDSBhCCBGEheHBBBEBPBKHhZXEBICCCWBHBCBFDICCCCDBGBFHcKBBCBBhGBKBBCBBEBCDBBBhMiCBDBEUDei",
   "CCCBBlYhWCHZGhChfBBDBhbhWCBiHbCOVHlZhZjHiAfICBCIBCBeBCCCCEidIChOCGBBBCbhTCKRiIFBSiJmHhBfJBhN",
   "BHBBhReCWBOiJHBCBhMDBBCBDBBCCYGBCBhFBCBEBBqHXJRBhJDDjPBiP8ajGjPRmEiyMjBPhhQRGZj8bFyHm1ZhPh2R",
   "xZHfRiPReShQQEfVFTtQhNmTiAkAiLEhZHRiACBBMCOl-YIhmWhJKo3HEBHBCBpDPBdDCBOEIsMioEjLFNDJHKEBl7Bi",
   "VBiHBCCBCCCEBMBBBHBiBBECIBHBcBEBFBBDHBqUCZBZBfBZBfBZBfBZBfBZBIh5UfGGmVHBRCHBCBFFhehBBjQhNKHQ",
   "BqBeShMvEcnEeCBvPHBEBCBPBmFhbiEDBDBhlUEBbBCBBCBBKBEBBBBGBEBBBBBBDBCBBCBBBBBBBBBBCBBCEBHBEBEB",
   "BBKBRFDBFBRzUaGaGajzWhp3AhAkhaGmeCl0COnpRPzOitCwehvCk6LFkjA"]

def bidiControlSet : CharSet := .decode
  ["hwcBmvRCaFhXE"]

def bidiMirroredSet : CharSet := .decode
  ["hICSBBBcBBBdBBBhNBPBjzeEh6dCiscCKChWCOClRBmAEDGDBDCDEBEBBBBEJFBBSFEJCBBBIBhACEFBJCCTFCJFCCEY",
   "CQIEUCHChhdOiKBCEBCBDFEFDDOsTWCGBOIBHGDBEFBCCFEBBDCCKGCCMTBECBBBCBBEFCGDYCLCEEBCCCEhLCIBhIFB",
   "BBDFFDEBDFBBoABwDEDCBCOCCKhLItLKCIhzxdGFClCCSBBBcBBBdBBBBCBCh17XBhZBhZBhZBhZB"]

def caseIgnorableSet : CharSet := .decode
  ["hHBGBLBhDBBBiHBEBBBEBCCvXmAECEBJCBBnbHmPBFBhRhNBBBCBCBBhMBLGKLBBhDBKVQBjFIBKBEhBBBBebibLhaLE",
   "BCBYYhLDhMBHCFJhJhahXBBBEIEBDHKCNBPBhaBEEIBUCaBCChZBECECCDDBeCDBLChZBEFBCEBUCWGBBhaBCBBEIBHC",
   "LCeBhdBMBhSBDBhXBBDFDBEHCLCdBhaBCBGBFCUCcChZCEEIBUCdBiIBHDBBiaBCHLJjCBCJJBBHiJCbBBBBBhXOBFBC",
   "FLBhEJBjGEBGBCCCZCEDQENBCCGBPBieBzAD9SDdCeCeCiACBHIBCLDBFBhNFhTBiBChCBjWDECJBGDmbCCBhaBBHBBB",
   "BCIGKCBhHBIfhREhQBBFBBFBhIJMChAECCBDhYBBCDBBDhaICCiAGiSDBNBHEBGBDChShfNBhCjFtdBBDLDNDNDNCMFI",
   "CKBCBCFhRFBKBBNBQNhThBi8LCjRDjdBPBjAhAhPBuVBhEEDFFBidGidD74WBhnCGoOBjCEBKBBcEiQCOhCiOBXDjHDD",
   "CIBDBEBZCFBkXCaSNBhGIZLhODhQBCECCRBVCiCGCCCCMBIBhDBLBhTBBDCCFCBBbBOCFCBBjEFJDjZBCBEBz5QBkTRx",
   "dQDBMQhCBCBlJBHBGBLBhDBBBhPBhNCiDBVDwBBnCBkVFhgFGBhKBJyGDBCFEhIDEBlFCxdEhGBaFBBpbCiPEiGLhREj",
   "bBhWPhJBCCKDhRECCCBEBKBhSDhEFBIheBMChUJKECBifDCBBCGBCBkdBDIVChZCDBhFHDFiGGNBBBBBOCiVICDBBXBi",
   "UGBBECBCnOEGCBCbCiVICBBCjKBBBCGBBjFBBBCEBFoDJBCoACBBEBkQECCEBhAKhIGCEIBJGCDhONBCsWHBGBBiSWCH",
   "BCBCjaGDBBCBHBBiICDBBBqbCLChUFFBBBXBlmVRGPrmIMDDiuAFhbHJEvcDhICvCBhfRiACBCwgLEBHBCjkeCBEkych",
   "OCXxADJQCHeEkUDh9bhXEhSIBOBWFBPhqQHBRCHBCBFFhehBBlAOrQBhdEvbFneC3AHjNIi1PF4jgBBejAkAnQ"]

def casedSet : CharSet := .decode
  ["iBaGahPBKBEBFXBfBmDBEEmQBhEHCeFjABhKECCCEBBGBBDBBBUBiTBkLIlGBhGJhJi4XhGBBFBChLBE1AiWCGikCLFh",
   "LCDiAmAiAoWCGChGCGCIBBBBBBBfChVBHBBDDBHDECGENFDBHjUBNBQNjFBEBCKBBDFGBBBBBBEBGEBCEFFEBRhADC5R",
   "hUh4WnFGEDCMhGBBFB+oShOSekEjGDEBheCCBBBIVFBD5VhLBOGiQz6AHMFhgJaGahlFiQjAhEEhEjULBPBHBCBLBPBH",
   "BCuDBCDBhKBJhmFhTNhTidWKWi4aiA1rAiA5sAiVBiHBCCBCCCEBMBBBHBiBBECIBHBcBEBFBBDHBqUCZBZBfBZBfBZB",
   "fBZBfBZBIh5UKBUGGoFheikSiEh-MaGaGa"]

def changesWhenCasefoldedSet : CharSet := .decode
  ["iBaiaBKXBIhABBBBBBBBBBBBBBBBBBBBBBBBBBBBBBBBBBBBBBBBBBBBBBBBBBBBBBBCBBBBBBBBBBBBBBBBCBBBBBBB",
   "BBBBBBBBBBBBBBBBBBBBBBBBBBBBBBBBBBBBBBCBBBBBBBCBBBCBDCEBCBDDCBCBBBBBCBBCBBCBDBBBCDBHCBCBCBBB",
   "BBBBBBBBBBBBBCBBBBBBBBBBBBBBBBBCCBBBDBBBBBBBBBBBBBBBBBBBBBBBBBBBBBBBBBBBBBBBBBBBBBBBBBBBBBBB",
   "BBBHCBCCBBEBBBBBBBBnWBhKBBBDBIBGBBDBBBCBRBJWBMDDCBBBBBBBBBBBBBBBBBBBBBBBBBCCCBBBCChThQBBBBBB",
   "BBBBBBBBBBBBBBBBBBBBBBBBBBBJBBBBBBBBBBBBBBBBBBBBBBBBBBBBBBBBBBBBBBBBBBBBBBBBBBBBBBCBBBBBBBBB",
   "BBBCBBBBBBBBBBBBBBBBBBBBBBBBBBBBBBBBBBBBBBBBBBBBBBBBBBBBBBBBBBBBBBBBBBBBBBBBBBBBBBBBBBBBBBBB",
   "BBBBBBBChGhQBi4YhGBBFB5KGikCKGhLCDqABBBBBBBBBBBBBBBBBBBBBBBBBBBBBBBBBBBBBBBBBBBBBBBBBBBBBBBB",
   "BBBBBBBBBBBBBBBBBBBBBBBBBBBBBBBBBBBBBBBBBBBBBBBBBBBBBBBBBBBBBBBBBBBBBBBBBBBBBBBBBBBBBBBBBBBB",
   "BFCCBBBBBBBBBBBBBBBBBBBBBBBBBBBBBBBBBBBBBBBBBBBBBBBBBBBBBBBBBBBBBBBBBBBBBBBBBBBBBBBBBBBBBBBB",
   "BBBBBBBBBJIIGKIIIIGLBBBBBBBIIQhQCDCGFDCGLEMFFDCGpJBDCGBhNQTB5Sah5QhQhQBBDCBBBBBBEBBCBIDBBBBB",
   "BBBBBBBBBBBBBBBBBBBBBBBBBBBBBBBBBBBBBBBBBBBBBBBBBBBBBBBBBBBBBBBBBBBBBBBBBBBBBBBBBBBBBBBBBBBB",
   "BIBBBEB+qNBBBBBBBBBBBBBBBBBBBBBBBBBBBBBBBBBBBBBBBBBBBBBTBBBBBBBBBBBBBBBBBBBBBBBBBBBkHBBBBBBB",
   "BBBBBBDBBBBBBBBBBBBBBBBBBBBBBBBBBBBBBBBBBBBBBBBBBBBBBBBBBBBBBBBBBBBBKBBBBCBBBBBBBBEBBBCBBBDB",
   "BBBBBBBBBBBBBBBBBBBFBFBBBBBBBBBBBBBBBEBBBCDBFBBBBBBBYB7aiQz6AHMFhgJahmFhIkIhEkcLBPBHBCh3KhTk",
   "dWi5ahA1sAhA+1AhC"]

def changesWhenCasemappedSet : CharSet := .decode
  ["iBaGahaBKXBfBiABiUBcCOCCBBEidBSGbBCBBBCDCBEBFCBBCCBHBCBBCDGFBKClGBhKECCDDBBGBBDBBBUBhPDhBBFB",
   "kFIlGBhGKhHi4YhGBBFBChLCD1AiWCGikCLFhLCDlZBDBQBjRkcCBBjWCGChGCGCIBBBBBBBfChVBHBBDDBHDECGENFD",
   "BHpJBDCGBbBRhADC5RhUh4WjRBCBCHjGHEDCMhGBBFB+oShOSckGOCheJPDDCFBZBeCCEHYC6cBciQz6AHMFhgJaGahl",
   "FiQjAhEEhEjULBPBHBCBLBPBHBCh2DhTNhTidWKWi4aiA1rAiA+0AiE"]

def changesWhenLowercasedSet : CharSet := .decode
  ["iBajFXBHhBBBBBBBBBBBBBBBBBBBBBBBBBBBBBBBBBBBBBBBBBBBBBBBBBBBBBBBBCBBBBBBBBBBBBBBBCBBBBBBBBBB",
   "BBBBBBBBBBBBBBBBBBBBBBBBBBBBBBBBBBBBCBBBBDCBBBCBDCEBCBDDCBCBBBBBCBBCBBCBDBBBCDBHCBCBCBBBBBBB",
   "BBBBBBBBBCBBBBBBBBBBBBBBBBBCCBBBDBBBBBBBBBBBBBBBBBBBBBBBBBBBBBBBBBBBBBBBBBBBBBBBBBBBBBBBBBBH",
   "CBCCBBEBBBBBBBBpBBBBDBIBGBBDBBBCBRBJhDBIBBBBBBBBBBBBBBBBBBBBBBBFBCBBCChThQBBBBBBBBBBBBBBBBBB",
   "BBBBBBBBBBBBBBBJBBBBBBBBBBBBBBBBBBBBBBBBBBBBBBBBBBBBBBBBBBBBBBBBBBBBBBCBBBBBBBBBBBBCBBBBBBBB",
   "BBBBBBBBBBBBBBBBBBBBBBBBBBBBBBBBBBBBBBBBBBBBBBBBBBBBBBBBBBBBBBBBBBBBBBBBBBBBBBBBBBBBBBBChGi6",
   "JhGBBFB2SiWikTBGhLCDqABBBBBBBBBBBBBBBBBBBBBBBBBBBBBBBBBBBBBBBBBBBBBBBBBBBBBBBBBBBBBBBBBBBBBB",
   "BBBBBBBBBBBBBBBBBBBBBBBBBBBBBBBBBBBBBBBBBBBBBBBBBBBBBBBBBBBBBBBBBBBBBBBBBBBBBBBJBBBBBBBBBBBB",
   "BBBBBBBBBBBBBBBBBBBBBBBBBBBBBBBBBBBBBBBBBBBBBBBBBBBBBBBBBBBBBBBBBBBBBBBBBBBBBBBBBBBBBJIIGKII",
   "IIGLBBBBBBBIIYIIIIIIFLFLEMFLFpJBDCGBhNQTB5Sah5QhQhQBBDCBBBBBBEBBCBIDBBBBBBBBBBBBBBBBBBBBBBBB",
   "BBBBBBBBBBBBBBBBBBBBBBBBBBBBBBBBBBBBBBBBBBBBBBBBBBBBBBBBBBBBBBBBBBBBBBBBBBIBBBEB+qNBBBBBBBBB",
   "BBBBBBBBBBBBBBBBBBBBBBBBBBBBBBBBBBBBTBBBBBBBBBBBBBBBBBBBBBBBBBBBkHBBBBBBBBBBBBBDBBBBBBBBBBBB",
   "BBBBBBBBBBBBBBBBBBBBBBBBBBBBBBBBBBBBBBBBBBBBBBBBBKBBBBCBBBBBBBBEBBBCBBBDBBBBBBBBBBBBBBBBBBBB",
   "FBFBBBBBBBBBBBBBBBEBBBCDBFBBBBBBBYB15LahmFhIkIhEkcLBPBHBCh3KhTkdWi5ahA1sAhA+1AhC"]

def changesWhenTitlecasedSet : CharSet := .decode
  ["jBahaBhJYBIBBBBBBBBBBBBBBBBBBBBBBBBBBBBBBBBBBBBBBBBBBBBBBBBBBBBBBBBCBBBBBBBBBBBBBBCBBBBBBBBB",
   "BBBBBBBBBBBBBBBBBBBBBBBBBBBBBBBBBBBBBCBBBBDCBBBCBDBFBCBDDCBCBBBBBCBEBCBDBBBCBDBBBEBBCBCBBBBB",
   "BBBBBBBBBBBBCBBBBBBBBBBBBBBBBBDBBBBDBBBBBBBBBBBBBBBBBBBBBBBBBBBBBBBBBBBBBBBDBBBBBBBBBBBBBBBB",
   "BIBCCBBEBBBBBBBBGBCBBBCDCBEBFCBBCCBHBCBBCDGFBKClGBhLBBBDBDDSBbhDBCDDBBBBBBBBBBBBBBBBBBBBBBBF",
   "BBCBCBhUhQBBBBBBBBBBBBBBBBBBBBBBBBBBBBBBBBBBJBBBBBBBBBBBBBBBBBBBBBBBBBBBBBBBBBBBBBBBBBBBBBBB",
   "BBBBBBCBBBBBBBBBBBBCBBBBBBBBBBBBBBBBBBBBBBBBBBBBBBBBBBBBBBBBBBBBBBBBBBBBBBBBBBBBBBBBBBBBBBBB",
   "BBBBBBBBBBBBBBBBBBBBBBBBhRhHjzQGikCJBBnOBDBQBjSBBBBBBBBBBBBBBBBBBBBBBBBBBBBBBBBBBBBBBBBBBBBB",
   "BBBBBBBBBBBBBBBBBBBBBBBBBBBBBBBBBBBBBBBBBBBBBBBBBBBBBBBBBBBBBBBBBBBBBBBBBBBBBBBBBBBBBBBBBBBB",
   "BBBBBBBBBBBHFBBBBBBBBBBBBBBBBBBBBBBBBBBBBBBBBBBBBBBBBBBBBBBBBBBBBBBBBBBBBBBBBBBBBBBBBBBBBBBB",
   "BBBBBBBBBBBBBBBJIGKIIIIGKIIIIOCIIIIIIFBCGBDDBCIECCIIKDBCqWBhBQEB6Lah6GhQBBDCBBBBBBGBCBKBBBBB",
   "BBBBBBBBBBBBBBBBBBBBBBBBBBBBBBBBBBBBBBBBBBBBBBBBBBBBBBBBBBBBBBBBBBBBBBBBBBBBBBBBBBBBBBBBBBBB",
   "BBIBBBEBMhGBBFB+oTBBBBBBBBBBBBBBBBBBBBBBBBBBBBBBBBBBBBBBBBBBBBBTBBBBBBBBBBBBBBBBBBBBBBBBBBBk",
   "HBBBBBBBBBBBBBDBBBBBBBBBBBBBBBBBBBBBBBBBBBBBBBBBBBBBBBBBBBBBBBBBBBBBBBBBBBBBKBBBCBBBBBBBBBEB",
   "EBBCCBBBBBBBBBBBBBBBBBBBLBBBBBBBBBBBBBBBEBBBCBDBFBBBBBaB6cBciQz6AHMFhhJahmNhIkIhEkbLBPBHBCh4",
   "DhTjdWi5ahA1sAhA+1ChC"]

def changesWhenUppercasedSet : CharSet := .decode
  ["jBahaBhJYBIBBBBBBBBBBBBBBBBBBBBBBBBBBBBBBBBBBBBBBBBBBBBBBBBBBBBBBBBCBBBBBBBBBBBBBBCBBBBBBBBB",
   "BBBBBBBBBBBBBBBBBBBBBBBBBBBBBBBBBBBBBCBBBBDCBBBCBDBFBCBDDCBCBBBBBCBEBCBDBBBCBDBBBFCBCBCBBBBB",
   "BBBBBBBBBBCBBBBBBBBBBBBBBBBBCBCBBDBBBBBBBBBBBBBBBBBBBBBBBBBBBBBBBBBBBBBBBDBBBBBBBBBBBBBBBBBI",
   "BCCBBEBBBBBBBBGBCBBBCDCBEBFCBBCCBHBCBBCDGFBKClGBhLBBBDBDDSBbhDBCDDBBBBBBBBBBBBBBBBBBBBBBBFBB",
   "CBCBhUhQBBBBBBBBBBBBBBBBBBBBBBBBBBBBBBBBBBJBBBBBBBBBBBBBBBBBBBBBBBBBBBBBBBBBBBBBBBBBBBBBBBBB",
   "BBBBCBBBBBBBBBBBBCBBBBBBBBBBBBBBBBBBBBBBBBBBBBBBBBBBBBBBBBBBBBBBBBBBBBBBBBBBBBBBBBBBBBBBBBBB",
   "BBBBBBBBBBBBBBBBBBBBBBhRhHi6IhLCD3YGikCJBBnOBDBQBjSBBBBBBBBBBBBBBBBBBBBBBBBBBBBBBBBBBBBBBBBB",
   "BBBBBBBBBBBBBBBBBBBBBBBBBBBBBBBBBBBBBBBBBBBBBBBBBBBBBBBBBBBBBBBBBBBBBBBBBBBBBBBBBBBBBBBBBBBB",
   "BBBBBBBBBBBBBBBHFBBBBBBBBBBBBBBBBBBBBBBBBBBBBBBBBBBBBBBBBBBBBBBBBBBBBBBBBBBBBBBBBBBBBBBBBBBB",
   "BBBBBBBBBBBBBBBBBBBJIGKIIIIGKIIIIOChVBCEBBBDDBCEBDECCIIKDBCEBqRBhBQEB6Lah6GhQBBDCBBBBBBGBCBK",
   "BBBBBBBBBBBBBBBBBBBBBBBBBBBBBBBBBBBBBBBBBBBBBBBBBBBBBBBBBBBBBBBBBBBBBBBBBBBBBBBBBBBBBBBBBBBB",
   "BBBBBBBIBBBEBMhGBBFB+oTBBBBBBBBBBBBBBBBBBBBBBBBBBBBBBBBBBBBBBBBBBBBBTBBBBBBBBBBBBBBBBBBBBBBB",
   "BBBBkHBBBBBBBBBBBBBDBBBBBBBBBBBBBBBBBBBBBBBBBBBBBBBBBBBBBBBBBBBBBBBBBBBBBBBBBBBBBKBBBCBBBBBB",
   "BBBEBEBBCCBBBBBBBBBBBBBBBBBBBLBBBBBBBBBBBBBBBEBBBCBDBFBBBBBaB6cBciQz6AHMFhhJahmNhIkIhEkbLBPB",
   "HBCh4DhTjdWi5ahA1sAhA+1ChC"]

def dashSet : CharSet := .decode
  ["hNBhqcBhTBjyBBhgFBigJGhdBhHBPBsGBjgEBCBfCEBcBteBTBjPBhzsQChFBKBlJBjzABpeB"]

def defaultIgnorableCodePointSet : CharSet := .decode
  ["lNB1BB2MBi6CChyTCiVFh-bFaFhRQknUBhzkbQnPBlABiPJhvlHElmPI4r0FkgA"]

def deprecatedSet : CharSet := .decode
  ["qJBhpJBioDBBBihJCimFG1ZC73mWB"]

def diacriticSet : CharSet := .decode
  ["ieBBBiHBGBEBCCvXkfBIFGRCEBJCndFmRBhXRBbBBBCBBkGIECkGCECDDiDbibLhaLhCCjeIhJKQchdBQBDEcBiKBQBj",
   "OBQBjOBQBhPDhcBQBHBjXBjOBQBjOBQBjNCQBjcBjPBMGBBjLBNFiLCbBBBBBECiCDBCheBjQBBChICEFZHBBKC2BD9U",
   "CeBkULJBqbDpEBUICBhQPCLjIBPBhGJhWChaBLCiCCiAGiSZEBGBCDhShfiZMhFLtdBBDLDNDNDNCjnQDpdBvaGjJEif",
   "B9rSBMCBBcCiSCOhCjGDjNCMBhFBkXBbShZEhEBifBMBhEBkVDiBEhTBjEFJDkACz5QB4BQoOBBBhPBhNCiDB3cBhkfG",
   "BhKBJzdDEBlFCxbGhGBaFsPDiGLhREmABhJBiICjYCheBiMBJDjIClSCiQCQBYHDFiZDBCNCifBDBjbCnbCjeBjWCjTB",
   "oNCoCCEBkcBiTBSBiRBtFBoCBBCiRBtJCXBlnMPrmZBiuAFhbHxUCxCRiQCv-eEBHBCn4BhOCXxADDGIICHeEj0ChemC",
   "HrXBhdE3eC3AHjNDBD"]

def emojiSet : CharSet := .decode
  ["hDBGBFKjPBEBn8NBMBmYBWBiaGPCrPCMBlGBZLEDmHBnHCKBJBhaEBFJBCBCCCBEBCBBCCBDBDCIDFBBBFMLCCBBCBBS",
   "BCCSGBBBCDCFBCCECLCFCCBFCBBBCUCFGBECBEBCBCGBBCBBBBBGBDBGBKCPBCBEBBBEDBBLChQDJBOBOBrUCuPDTChT",
   "BEBhmaBMByZBBBjvrKBmKBlACMCOBCKiLaBCXBUBCJVClOhCCjQCCBDCiTCDBoHBhfLGBYHCCIMBCECBECNCCBICJBFD",
   "MDIDCBBBEBGBDBGiWhQiGFICDEKDBBCDBCKnDMEBobhPBKBlZjQNDKFhYHPCLGJ"]

def emojiComponentSet : CharSet := .decode
  ["hDBGBFKn+TBmVBh3pLBh8+WavbFhtQE4hzMjA"]

def emojiModifierSet : CharSet := .decode
  ["j8-bF"]

def emojiModifierBaseSet : CharSet := .decode
  ["pwdBmbBQEjzjXBhcDCBCDjVCCLVTDBEDBDHBBBYBmJCEBVBEClODDFiTBQDJBLBxfBCBIIGBJKCDhYBhdCBCBBRDBNnF",
   "DhKJ"]

def emojiPresentationSet : CharSet := .decode
  ["o4aCmNEDBCBwJCVChSMhLBTBNBICRCFCIBFBVBHCBBEBCBHBECcBhDBBBEDBBhdDYBOB6bChTBEBjxlOBmKBleBCKiLa",
   "BBYBUBCFBDVClOhBMJBiGBWMhLEFMRDBDiHBBBlbChfNEBYSBaCNBiWiVhQiGGBDDCDEELCHJnDMEBobhPBKBlZjQNDK",
   "FhYHPCLGJ"]

def extendedPictographicSet : CharSet := .decode
  ["lJBEBn8NBMBmYBWBiaGPCrPCMBifBiGBZLEDmHBnHCKBJBhaEBGBMBjSKjWCLBBBBGBDBGBKCPBCBEBBBEDBBLFhNDJB",
   "OBOBrUCuPDTChTBEBhmaBMByZBBBjvrGoANDfBhcGMCOBCKShZbPKBUBCJBEJtSFpeIoKhQkAjUMiVhLMEhYIKGhIIei",
   "SMhPBKBtZoA-e"]

def extenderSet : CharSet := .decode
  ["lXBwYC7OBtZBzWBkJBiZB3QBjfBiqDBhYBzDBsOBiEBk8JBhLFjHCidD74WBhvWB+CBWBkJBjMBVC1jbBigQChuLBbBE",
   "BhmHBpFBjUCvSDhmPB0lJChkcCBB8qYChlRB6UD"]

def graphemeBaseSet : CharSet := .decode
  ["hAifhBNBySjQICGEHBBBUBnAHlGBhGChSCDhOBBBCBCBJbEGRKLBBhOVQBjFIBGCCBEhACBBediZLBOhLJHDYEBJBDBH",
   "PBZFBBLFfRhKhZhXBBBEIEBDHKCdBCBICCCWBHBBDEDBBCGCCCBBNCBDEYFBBGECCWBHBCBCBCEDYEBBHKCDBBMBBJBD",
   "BWBHBCBFDEIBBCDBPCEMHBICBICCCWBHBCBFDBCBGCCCPCBDESLBBGDDBEDCBBBCDCDDDMFBBCDDBDDBVVGDBIBDBXBQ",
   "DBDETDCBCCEKHKBLBDBXBKBFDCCBBCYCBCEKBDOLBDBhJCBBCFDBDBCEDBKEaCCBSDYBJBBCHJCGHHKCDMhQBCLIINhF",
   "CBBBFBYBBBKBCJBCFBBJKCEhAYCbBBBBBOBhESBFBCFhRIBGBNhFhNEBGBCCCZCEDQENBCCGBPBhIBBFBCrZBECHBBBE",
   "ChJBEChBBECHBBBECPBhZBECiDFdDaGiWCGC0dDiZHSNTDCJSONBDPhUCBHIBCLJDKGKGLFKGiZHFChCBBFiGKfEECDE",
   "CBGHBDhKCFLhMEaGLDhZCCDhYBBJBBCIGNKGKGOiWhQKEDIBdJMChAECGhYBBCDBBNhQICFPDheFhLCLLBNBHEBGBDCB",
   "FmAiAoWCGChGCGCIBBBBBBBfChVBPBOCGBTCDBJBLFYHhRQCCbBNDhBhfkME0aWLVh4UChABqYDCFhNBBFBChYHCPXJH",
   "BHBHBHBHBHBHBHhBiehCaBiZMmWahaGQBiWEjFFhLBieBiWJhQB8zNDhXJqcUhPEBKhACiQCGImOCCBBBIVQBDBEBZCF",
   "EKGhYIiEKMYNBhGIZLBMeGhQBCECCCBNBLEHBZBhJGCCCLDBIBBCKChABhTBBDCCFCBBBYRCILGCGCGJHBHBhcEjVBCB",
   "EDKGq9EMXEhRooErOCjKhGHMFFBBYBFBBBCBCBjdQtdChWHBhAQQKWhDBTBEEFBkHEkdCfDGCGCGCDDHBHNCCMBaBTBC",
   "BPCOhCjbFDEhNDiYBNDBhPhNkDdDhRQbEhEJeFhGKeBhFEOhKkeCKGhEEhEEhIIhULMBPBHBCBLBPBHBCDhUMpXJWKIY",
   "GBhKBJiFGCBBhMBCDBCXBiIIJhQTBCFhBDbFBiAhYEUChPPEBDBdKJHJHiAhAhFGMJhWDdCbFaHEMHiQiJhXhTNhTHhK",
   "MKGhGIYICmQfBhKDBCCQDhbhIIWLJWSEEhGcUXJBBhWPHEeBCCBMhRECCCBEOZHKJhEFBJSIhDBDLhUJBBIECBQBULSB",
   "cDCEGBChfHBBBEBPBLGhPBDNKICBICCCWBHBCBFDBBBBECCCCDBMHcKBBCBBhGBBBCPBBCDBBDBChHhYICDBBVBBBDeh",
   "QBCGBBCBBCBCEIKlGhPBCGECBCbhEhTICBBCELKGNThLBBBCICGKGUcbDBBCEBJXlZhPJBCBjEiTMICBCIBCBYBFBCGE",
   "BDJKiGIChKIEBEbBKhIGCEIJBGCDhONBCJNiJHKlWhCOKGJBhGOBBGKdDhAZBHBCBiLHBCBhGVBJKGGBCBhFECBBBBHK",
   "pWTCEJPBhEICDXiWBPhSN8bjGjPBFLmEiyMjDNhhQRGZj8bFyHm1ZeMDDKh2GxZHfBKEiRBKGeHBKhQHPKKBHBVFTtQh",
   "amGibjFiLFhYLNiAEcl-YIhmWhJKo3HEBHBCBpDPBdDCBOEIsMioEjLFNDJHKCBCBj7AnaGtUkcjUhcnWKhHChcFDWCH",
   "eEhdViCDBjaUMUMiXJZkHiVBiHBCCBCCCEBMBBBHBiBBECIBHBcBEBFBBDHBqUCpECxShXEhSIBOBHhjUfGGoFhekShN",
   "KHCKECqAeShMEKFBuQcEKmWeCLEBvAHBEBCBPBmFCJhQiEHBEKEC4RiEiMhdmCEBbBCBBCBBKBEBBBBGBEBBBBBBDBCB",
   "BCBBBBBBBBBBCBBCEBHBEBEBBBKBRFDBFBRhUCoOhMEjEMPCPBPBhFKlOhYdNhMEJHCOGka+YERDNDjXEifGMEBPMEhY",
   "IKGhIIeCMECheqUMOCNDKFhYHPCLGJHkTBjGhgGhp3AhAkhaGmeCl0COnpRPzOitCwehvCk6LFkjA"]

def graphemeExtendSet : CharSet := .decode
  ["4AjQoTHoHhNBBBCBCBBiILhQVQBjFHCGCCBEhDBebibLhaJJBYEBJBDBFhLDhbJhKYBhAhXBBBEIEBDHKCdBhaBBBCEI",
   "BJBKCaBCChZBECECCDDBeCDBLChZBEFBCEBUCWGBBhaBBCBEIBHDKCeBhbBBBMBJBhIBDBhXBBDFDBEHCLCdBhaBCCBB",
   "DDBEHCLCcChZCBBCEIBJBKCdBiIBEBCDBBIBiRBCHMIjCBCJLHiJCbBBBBBhXOBFBCFLBhEJBjGEBGBCCCZCEDQENBCC",
   "GBPB1fD9SEcDdCeCiACBHIBCLJBhNDBBjVChCBjWDECJBGDmbCCBhaBBHBBBBCIGKCBhQfhREhQKEDhGJMChAECGhYBB",
   "CDBBFhYICCkYDBNBHEBGBDCmGiAwMBmDhBi-eDkNBjAhAxKGjJC9uUEBKhACiQCoQBDBEBZCFBkXCaSNBhGIZLBBhMDh",
   "QBCECCCBhEBiDGCCCCMBIBhPBhTBBDCCFCBBhKCIBnOBCBEBz5QB3BQQQrOCydBnCBkVFh0GDBCFEhIDEBlFCxdEiBFp",
   "dCiPEiGLhREjbBhWPhJBCCKDhRECCHBhdDhEFBIheBMChUJBBIECBifDCEGBCBkdBDIVChZCBBBBMBJBOHDFiDBCGBBC",
   "BBDEDBBOCiVICDBBXBiRBCGBBCBBCBCnLBCEGCBCbCiVICBBCjKBBBCIjFBBBCEBFoDJBCnVBKEEBkQECCEBhAKhIGCE",
   "IBJGCDhONBCsWHBGBBiSWCHBCBCjaGDBBCBHBBiICDBBBqbCLChUFFDXBlnFBGPrmIMDDiuAFhbHhgYBhfEiRBLCzlLC",
   "kzBhOCXweFDGIICHeEkUDh9bhXEhSIBOBWFBPhqQHBRCHBCBFjEBlAHrXBhdEvcEneC3AHjNH4l2VjAkAnQ"]

def graphemeLinkSet : CharSet := .decode
  ["iqNBjfBjfBjfBjfBjfBjfBjfBjNCQBjcBjPBjfBmJBlUCh2ZCeBkdB0NBnDBjFCiGCksLB+0GBhFBkXBkOBjMBpVBnWB",
   "3yRBhwGBhJBOBhZBjZCkLBjUBlUBjCBkADjRBjfBncBjfBjWBjUBoNBoDClBBiTBSBiRBtFBoECiRBtJCwvMB"]

def hexDigitSet : CharSet := .decode
  ["hQKHGaGh-1JKHGaG"]

def hyphenSet : CharSet := .decode
  ["hNBjfBhmcBkzbBigJCjwFB3DBhzrHBlJBiXB"]

def idsBinaryOperatorSet : CharSet := .decode
  ["r-QCCKvRB"]

def idsTrinaryOperatorSet : CharSet := .decode
  ["r-SC"]

def idsUnaryOperatorSet : CharSet := .decode
  ["r-eC"]

def idCompatMathContinueSet : CharSet := .decode
  ["lSCFBn9WBDLBPrTBEBWBjtlCBZBfBZBfBZBfBZBfBZB"]

def idCompatMathStartSet : CharSet := .decode
  ["owCBEBWBjtlCBZBfBZBfBZBfBZBfBZB"]

def idContinueSet : CharSet := .decode
  ["hQKHaEBBahPBKBBBCBFXBfBuKEMOFHBBBRjVBCCEBBGFBBBUBiTBkLBFClGBhGCBGhJIhNBBBCBCBBIbEEdLFiKEjGBI",
   "CKBTCBQhbCjFOhWEBCBChOScELFYBGIiLBkBCKBTBICCCWBHBBDECJCCCEIBECBFCMKBBBCDBGECCWBHBCBCBCCBBFEC",
   "CDDBHEBBHQLDBJBDBWBHBCBFCKBDBDCBPECKJHBDBICCCWBHBCBFCJCCCDHDECBFCKBBQCBGDDBEDCBBBCDCDDDMEFDD",
   "BECBGBOKQNBDBXBQCJBDBEHCBDCBCECKQEBIBDBXBKBFCJBDBEHCGCBECKBDMNBDBhTBDBFFEHFCKKGBDBSDYBJBBCHD",
   "BEGBBBIGKCCNhaFPBKhHCBBBFBYBBBXCFBBBHBKCEhABXCGKLBBBBBEKBhEEUBSBhEJBhZiKGiOChGBBFBChLBqNBECH",
   "BBBEChJBEChBBECHBBBECPBhZBECiDCDJJOQQiWCGDzMCRBaFiLDLHWJWLUMNBDBCMiUDBECCKhBDBLGiZHhLFiGKfBM",
   "EMKhICFLhMEaGLhFcEhfBdCLGKNBIOBQhRiNDKRJMjUMhYIKDhRCLFhLCDQDBhHFwWCGChGCGCIBBBBBBBfChVBHBBDD",
   "BHDECGENFDBHPChRCTBcBNBQNhTNEBDMRBEBCKBBCGGBBBBBBQCEFFEBRhJizXnFGJMhGBBFBChYHBPYJHBHBHBHBHBH",
   "BHBHBhAwFDZPBFCFEiWCHBifFhLBieRhAhQQwAmuAiA10NiDhOCoNDcUhQEKBjThFJCjHCiDCCBBBIVhWEBThUMiGKKG",
   "YDBBhRChEMdDiBOLGfBhXJOCKGXDiJYDCQCFKGCGCGJHBHBhLBOGjbBCCKGq9EMXEhRooErOCjKhGHMFFMBNBFBBBCBC",
   "BjMhBrLSiAChWhIMEQQQDCYDhAFBkHTKHaEBBaKiaDGCGCGCDhDMBaBTBCBPCOhCjbiFhVkIBkCdDhRPBfhANeFhLFeC",
   "hEEIBFhKkeCKGhEEhEEhIIhUMLBPBHBCBLBPBHBCDhUMpXJWKIYGBhKBJiFGCBBhMBCDBCXKXJfiBTBCKWKaiGhYGCiA",
   "EBCFIBDBdCDEBhAdDdhDIBeZhWKWKTNSjOiJhXhTNhTNhIIKGhGDFBXnahKBCDCQDhXhBKBIhBfWhKVbXJiHfQJhcHBN",
   "ZHKGhVBKEEIhECBJiFEEBNBBhDSBhFGEheHBBBEBPBKHhbFKGEBICCCWBHBCBFBKCCCDCBGBFHCHDFLKBBCBBhGBKBBC",
   "BBEBINCdiLFKEEeiGBBIKlGhWCJXGhCiBDBLKhGhZHKGUcbCPEKGHlZhbjFiKVICBCIBCBeBCCJMKiGIChOCIBCbhfIB",
   "IiKDBSiJmHhBPKGJBhNBJPKYeCWBOiJHBCBhMDBBCBJIKGGBCBhFBCBGHKpWXJRBhJDFNLiVBiP8ajGjPRmEiyMjBPhh",
   "QQWKj8bFyHm1Zhah2GxZHfBKGiPBKGeCFLhXJEMKJVFTtQhNDKmGiAkAiLEhZHRiACBCLCOl-YIhmWhJKo3HEBHBCBpD",
   "PBdDCBOEIsMioEjLFNDJHKDCkiRKwGhOCXweFDGIICHeEkUDtbiVBiHBCCBCCCEBMBBBHBiBBECIBHBcBEBFBBDHBqUC",
   "ZBZBfBZBfBZBfBZBfBZBIChSwAhXEhSIBOBWFBPhiQfGGmVHBRCHBCBFFhehBBjQhNDOCKEBqBfRhauWhKmWhLvFHBEB",
   "CBPBmFLHhJiMEKhlGEBbBCBBCBBKBEBBBBGBEBBBBBBDBCBBCBBBBBBBBBBCBBCEBHBEBEBBBKBRFDBFBRjpUKhgGhp3",
   "AhAkhaGmeCl0COnpRPzOitCwehvCk6LFkjA13qQnQ"]

def idStartSet : CharSet := .decode
  ["iBaGahPBKBEBFXBfBuKEMOFHBBBkBFBCCEBBGBBDBBBUBiTBkLIlGBhGCBGhJiHbEEhNhLhDCBjDBBPCHCKDCBQBBedi",
   "ZLBYhBJCEBFWEBJBDBXZHLFYBGRhKhahWDBSBHKPQEICCCWBHBBDEDBQBNCBDOCKBIGECCWBHBCBCBCfEBBTDQJBDBWB",
   "HBCBFDBSBPCXBLICCCWBHBCBFDBeCBDPBRBBGDDBEDCBBBCDCDDDMWBhUIBDBXBQDBaDCBCCeBEIBDBXBKBFDBfCBCPC",
   "RJBDBhJCBQBFDIDYGFSDYBJBBCHhahQBCMHhaCBBBFBYBBBKBCJBCFBBVEhABhfIBhEbFjThLUBQGEEDBDCHDENMBRhG",
   "BBFBChLBqNBECHBBBEChJBEChBBECHBBBECPBhZBECiDhFQQiWCGDzMCRBaFiLDLHSNTOSONBDPhUhDBEBiDiZHhJBBF",
   "iGKfhReCFLhMEahWXJhViSBidhPRIhWeNCKhMahEhJDKhECLFhLCDhJEBGBCDBFmAiAoWCGChGCGCIBBBBBBBfChVBHB",
   "BDDBHDECGENFDBHjUBNBQNjFBEBCKBBCGGBBBBBBQCEFFEBRhJizXnFGEDCMhGBBFBChYHBQXJHBHBHBHBHBHBHBHxGD",
   "ZJHFCFEiWEFBiaBEFhLBieRhAhQQwAmuAiA10NiDhOCoNDQKCUhPQfCiQhHJCjHCiDCCBBBIVQBDBEBXdhUOhSheGDBB",
   "CLcKXZdHhPcBQFBKKFBhJXDBIUXDBDhSBBDCCFCBBBYDCLHDMGCGCGJHBHBhLBOGjTdq9EMXEhRooErOCjKhGHMFFBBK",
   "BNBFBBBCBCBjMhBrLSiAChWhIMjUFBkHhEaGaLiZDGCGCGCDhDMBaBTBCBPCOhCjbiFhVoLdDhRhPhANeFhGKeChEEIB",
   "FhKkeShEEhEEhIIhUMLBPBHBCBLBPBHBCDhUMpXJWKIYGBhKBJiFGCBBhMBCDBCXKXJfiBTBCKWKaiGhYGCiABPEBDBd",
   "hKdDdhDIBcbhWKWKTNSjOiJhXhTNhTNhEhGcJXnahKGCQDhbdKBIWhKShOVbXMhVhZCCBNhNhAZahEdBCBIhDDBMhQOE",
   "VBBBhDSBZTChfHBBBEBPBKHhPhGICCCWBHBCBFDBSBMFeKBBCBBhGBBZBBBhMhVSEUDehQUCBBlYhPhJEhEhQUBhbhLN",
   "BiHbhFHlZhMjUiAfICBCIBCBYPBBBieIChHQBBBcBKhIHBVBLhOTBSiJmHhBfJBhFRBhRejQHBCBhGVBZGBCBhAOBqHT",
   "PBBNBhCjcBiP8ajGjPRmEiyMjBPhhQRGZj8bFyHm1Zeh3CxZHfRiPReShQQEfVFTtQhNmTiAkAiLFBiCNiACBBcl-YIh",
   "mWhJKo3HEBHBCBpDPBdDCBOEIsMioEjLFNDJHKl7GiVBiHBCCBCCCEBMBBBHBiBBECIBHBcBEBFBBDHBqUCZBZBfBZBf",
   "BZBfBZBfBZBIh5UfGGoFhekShNKHQBqBeShMvEcnEeCBvPHBEBCBPBmFhbiEHBhlUEBbBCBBCBBKBEBBBBGBEBBBBBBD",
   "BCBBCBBBBBBBBBBCBBCEBHBEBEBBBKBRFDBFBRkqEhp3AhAkhaGmeCl0COnpRPzOitCwehvCk6LFkjA"]

def ideographicSet : CharSet := .decode
  ["sgGCZJOD+FmuAiA0wA2oArOCjK9oKBbl-YIhmWhJKpjHsMzoEhp3AhAkhaGmeCl0COnpRPzOitCwehvCk6LFkjA"]

def joinControlSet : CharSet := .decode
  ["ogMC"]

def logicalOrderExceptionSet : CharSet := .decode
  ["jyAFjbFi3QDCBhknaCCBBC"]

def lowercaseSet : CharSet := .decode
  ["jBahPBKBEBhEYBIBBBBBBBBBBBBBBBBBBBBBBBBBBBBBBBBBBBBBBBBBBBBBBBBBBBBBBBCBBBBBBBBBBBBBBBCBBBBB",
   "BBBBBBBBBBBBBBBBBBBBBBBBBBBBBBBBBBBBBBBBBCBBBBDCBBBCBDCEBCBDDCBCBBBBBCBBCBBCBDBBBCCCDGBCBCBB",
   "BBBBBBBBBBBBBBCBBBBBBBBBBBBBBBBBCCBBBDBBBBBBBBBBBBBBBBBBBBBBBBBBBBBBBBBBBBBBBBBBBBBBBBBBBBBB",
   "BBBBHCBCCBBEBBBBBBBBiFBhEHCeFjABhLBBBDBCESBbhDBCDDBBBBBBBBBBBBBBBBBBBBBBBFBBCBCChThQBBBBBBBB",
   "BBBBBBBBBBBBBBBBBBBBBBBBBBJBBBBBBBBBBBBBBBBBBBBBBBBBBBBBBBBBBBBBBBBBBBBBBBBBBBBBCBBBBBBBBBBB",
   "BCBBBBBBBBBBBBBBBBBBBBBBBBBBBBBBBBBBBBBBBBBBBBBBBBBBBBBBBBBBBBBBBBBBBBBBBBBBBBBBBBBBBBBBBBBB",
   "BBBBBBhQhJi6HhLBE3YGikCJBBjVmAiBBBBBBBBBBBBBBBBBBBBBBBBBBBBBBBBBBBBBBBBBBBBBBBBBBBBBBBBBBBBB",
   "BBBBBBBBBBBBBBBBBBBBBBBBBBBBBBBBBBBBBBBBBBBBBBBBBBBBBBBBBBBBBBBBBBBBBBBBBBBBBBBBBBBBBBBBJBBB",
   "BBBBBBBBBBBBBBBBBBBBBBBBBBBBBBBBBBBBBBBBBBBBBBBBBBBBBBBBBBBBBBBBBBBBBBBBBBBBBBBBBBBBBBBBBBBB",
   "BBJIGKIIIIGKIIIIOCIIIIIIFBCGBDDBCIECCIIKDBCjZBNBQNjNBDCDBbBEBEBCCIEEBhBQEB6Lah6GhQBBDCBBBBBB",
   "EBBCBIDBBBBBBBBBBBBBBBBBBBBBBBBBBBBBBBBBBBBBBBBBBBBBBBBBBBBBBBBBBBBBBBBBBBBBBBBBBBBBBBBBBBBB",
   "BBBBBBBBBBBBBCHBBBEBMhGBBFB+oTBBBBBBBBBBBBBBBBBBBBBBBBBBBBBBBBBBBBBBBBBBBBBTBBBBBBBBBBBBBBBB",
   "BBBBBBBBBBDkFBBBBBBBBBBBBDBBBBBBBBBBBBBBBBBBBBBBBBBBBBBBBBBBBBBBBBBBBBBBBBBBBBBBBBBBBBBKBBBB",
   "CBBBBBBBBBEBBBCBBDBBBBBBBBBBBBBBBBBBBBFBFBBBBBBBBBBBBBBBEBBBCBDBBBBBBBBBBBWDBBBD5VhLBOGiQz6A",
   "HMFhhJahmNhIkIhEkbLBPBHBCuDBCDBhKBJhoFhTjdWi5ahA1sAhA5saaaHBSaaaEBBBHBLaaaaaaaaaaaaaaaaaccZB",
   "GaZBGaZBGaZBGaZBGBBh5UKBUGGoFheilUhC"]

def mathSet : CharSet := .decode
  ["hLBQDfBdBBBhNBEBhFBfB2YDCBaCCDwPDmwNBbDLBDBNBOEVFLFiBNEBDCEFSBEBCKBBCGGBDCCCBDBGDOBBiEYBGBCE",
   "CEhABBGCOoMIEUCiaBebBBYBLHtdCMKEGECCCDFOBBBCGLIFChZBBBdEJDqQiAoAwAhQVCGhz+cB5XGBBlCBQDdBBBdB",
   "BBkDBGEjtBChxzQiVBiHBCCBCCCEBMBBBHBiBBECIBHBcBEBFBBDHBqUCpEChSlwAEBbBCBBCBBKBEBBBBGBEBBBBBBD",
   "BCBBCBBBBBBBBBBCBBCEBHBEBEBBBKBRFDBFBRhUC"]

def modifierCombiningMarkSet : CharSet := .decode
  ["hyUCCBkDBGBDCvBCBDDBfB"]

def noncharacterCodePointSet : CharSet := .decode
  ["h-uQhAwOCh--eCh--eCh--eCh--eCh--eCh--eCh--eCh--eCh--eCh--eCh--eCh--eCh--eCh--eCh--eCh--eC"]

def otherAlphabeticSet : CharSet := .decode
  ["6FBdNyAOBBBCBCBBiILhQNBHQBjFHEECCEBhDBeQjGLjFCDJBDBEjKBhcMDHGUhWCCPBCFDKCdDhaHCCCCKBKCdDhaFE",
   "CCCEBeCDBLDhaIBDBCVCWDEDhaHCCCCJCKCeBhbFDDBDKBhIFhZHBDBDICLCdDhaHBDBDICLCPBMEhaHBDBDKBKCdDiL",
   "GBBBISChdBCHSBjDBCGBCQBlDTJLBhEjOMBBCEXEEDBDCHDENMBBKEhzUCeCeCeCiCTlcChCBjWMEJmeFhZKCUiKCLDh",
   "RFhQPhcDeJCChZLhSTschCh2BhUinWhA+jUIhCCrCBIBXFiYChSQBBhZBhGFcMhNEhQMhFBiDOMBIChNDhSBBDCCFBhM",
   "FFBnNIz5TBiiXFh0GDBCFE4UEiBBqBCiPBoDDhVOhNCLDhNJJBhdDhEMSChZDhQNOCicJCBGBCBkdKXEhaHCCCCKBKCi",
   "UJBBCBBEBCjHNBDjKSnNHCHdCiSPBBjKLjHOoBNnXGBCCCDBBBkOHCGEBcKhKFBESLhOOsXIBHiTWBOjaGDBBCBDBBDB",
   "iCFBCBEqcEJCBBhQHDDwudRjxABBhXHEidCzlMBo7BHBRCHBCBFjEBilXBh-IaGaGa"]

def otherDefaultIgnorableCodePointSet : CharSet := .decode
  ["6PBjwPChyTCilPBkneBhzxbBiPJ6ggHBBejAkAnQjwQ"]

def otherGraphemeExtendSet : CharSet := .decode
  ["iteBYBrGBYBjGBYBnIBBBECBCJCjHBYBjXBPBipVBeBhgABFBBBFCjFBiHChgYBkhBC+pDBjMB1udCkxABjUBoIBOBJB",
   "jABJBCBBDFBnABMBnRBoGBzZBMBhwDB0lOC4rTCGG4r1NjA"]

def otherIDContinueSet : CharSet := .decode
  ["lXB2PBj-BJhzIBhxRCknNBhzzJB"]

def otherIDStartSet : CharSet := .decode
  ["mkFCikRBVBj7MC"]

def otherLowercaseSet : CharSet := .decode
  ["lKBPBvVJHCeFjABhUBjsBBjhPhfNBhChF1RBNBQNmTQ6Qah8SC+weCmSBkBDDC7CEJB3gWBCDBhKBJh2jVhe"]

def otherMathSet : CharSet := .decode
  ["ieB7RDCBaCCCnhABbDLBhAEYCOCiBNEBDCEFSBEBCKBBDFGBDCCCBDBGDEFFiLFCEBCBCBBBFCCECESCCBBBHBBGCpCE",
   "lICBBYBRBtdCMJFFFCCCDFOBBBCGYChZBBBdEJCqWCfKsTWhfEhACh1jDBBBEBmTBBBh1mBiVBiHBCCBCCCEBMBBBHBi",
   "BBECIBHBcBEBFBBDHBqUCZBZBfBZBfBZBfBZBfBZBIChSlwAEBbBCBBCBBKBEBBBBGBEBBBBBBDBCBBCBBBBBBBBBBCB",
   "BCEBHBEBEBBBKBRFDBFBR"]

def otherUppercaseSet : CharSet := .decode
  ["orAQ6GajzjAaGaGa"]

def patternSyntaxSet : CharSet := .decode
  ["hBPKHaEBBaEhCHBBBCBBBCEBEBDBXBfBn4YYIPCTBKpR2QlAzWehjMwAkAsBDEZPBhzoNCoFC"]

def patternWhiteSpaceSet : CharSet := .decode
  ["JFSBjEBn8ICYC"]

def prependedConcatenationMarkSet : CharSet := .decode
  ["hwAGmXBhRBsACiQBih+aBPB"]

def quotationMarkSet : CharSet := .decode
  ["hCBEBkDBPBn6cIZCjwHBuJENDhzxBEldBEBiaC"]

def radicalSet : CharSet := .decode
  ["r0AaBiZMmW"]

def regionalIndicatorSet : CharSet := .decode
  ["j8vGa"]

def sentenceTerminalSet : CharSet := .decode
  ["hBBMBQBhqJBkTDlUBhLDnWBhdBBBDCpFCh3EC4WBEC4FBmGCkdChNBFBpaCrCElCCKCCCdDlbCiBC9EBXCJDjlPDpSBN",
   "BWCtNB9ncBoOCnDBDBreCiWCifBkYCkTDkQCnZB0xGBCChbBDClJBMBQBiBBi3UChndFhMEldCjVEjfDkBCGBQCiYCBC",
   "jMBpKCjVCrVCFPjJCnZDwFBBBnbCiXCtEC1UCiKCy5JCkFBiBCLBxJCpIBzwGBnvIB"]

def softDottedSet : CharSet := .decode
  ["jJCmEBoZBeBhUBUBqABjCBBBmoJBhTBNBDBkEBkdBtFBmWCi5SBjp9FChSChSChSChSChSChSChSChSChSChSChSChSC",
   "ikGBpRCaB"]

def terminalPunctuationSet : CharSet := .decode
  ["hBBKBBBLCDB5eBIBwBBhZBiIBOBBDlUBhLLBBnLChWGBIfBoFChnUClMBEGpXC4VI4FBjcDiHCkdDDBhHECCpaCrCElC",
   "CKCBDdDlbFheC9EBXCJDjlPDpSBNBEBKBBCDCtMC9nbCoNDnDFreCiWCifBkXDkTDjfBQCnZB0xGBCChZDBElJBKBBBL",
   "CDBiBBCBhhaBhQBhkGBmHBpWCkYGiEGiZE9YFhMEldHjQEjfDkBCGBQCiYFjMBpKCjVDMCrGEDPjJCnZDwFBBBnbCiXC",
   "ECseDhNB0FCiKChpLFxvZCkFBiBDKBxJCpHCzwGBnvHE"]

def unifiedIdeographSet : CharSet := .decode
  ["tgAmuAiA0wA2wOCBBBCKBBBBCCDihuWhp3AhAkhaGmeCl0COnpRPzOktCk6LFkjA"]

def uppercaseSet : CharSet := .decode
  ["iBajFXBHhBBBBBBBBBBBBBBBBBBBBBBBBBBBBBBBBBBBBBBBBBBBBBBBBBBBBBBBBCBBBBBBBBBBBBBBBCBBBBBBBBBB",
   "BBBBBBBBBBBBBBBBBBBBBBBBBBBBBBBBBBBBCBBBBDCBBBCBDCEBCBDDCBCBBBBBCBBCBBCBDBBBCDBHBCBCBCBBBBBB",
   "BBBBBBBBBCBBBBBBBBBBBBBBBBBCBCBBDBBBBBBBBBBBBBBBBBBBBBBBBBBBBBBBBBBBBBBBBBBBBBBBBBBBBBBBBBBH",
   "CBCCBBEBBBBBBBBpBBBBDBIBGBBDBBBCBRBJhDBCDDBBBBBBBBBBBBBBBBBBBBBBBFBCBBCChThQBBBBBBBBBBBBBBBB",
   "BBBBBBBBBBBBBBBBBJBBBBBBBBBBBBBBBBBBBBBBBBBBBBBBBBBBBBBBBBBBBBBBBBBBBBBBCBBBBBBBBBBBBCBBBBBB",
   "BBBBBBBBBBBBBBBBBBBBBBBBBBBBBBBBBBBBBBBBBBBBBBBBBBBBBBBBBBBBBBBBBBBBBBBBBBBBBBBBBBBBBBBBBChG",
   "i6JhGBBFB2SiWikTBGhLCDqABBBBBBBBBBBBBBBBBBBBBBBBBBBBBBBBBBBBBBBBBBBBBBBBBBBBBBBBBBBBBBBBBBBB",
   "BBBBBBBBBBBBBBBBBBBBBBBBBBBBBBBBBBBBBBBBBBBBBBBBBBBBBBBBBBBBBBBBBBBBBBBBBBBBBBBBBJBBBBBBBBBB",
   "BBBBBBBBBBBBBBBBBBBBBBBBBBBBBBBBBBBBBBBBBBBBBBBBBBBBBBBBBBBBBBBBBBBBBBBBBBBBBBBBBBBBBBBJIIGK",
   "IIIIGLBBBBBBBIIiIEMEMEMFLEoGBEBDDCDCBDFGBBBBBBECEKCFBaQTB5Sah5QhQhQBBDCBBBBBBEBBCBIDBBBBBBBB",
   "BBBBBBBBBBBBBBBBBBBBBBBBBBBBBBBBBBBBBBBBBBBBBBBBBBBBBBBBBBBBBBBBBBBBBBBBBBBBBBBBBBBBBBBBBBIB",
   "BBEB+qNBBBBBBBBBBBBBBBBBBBBBBBBBBBBBBBBBBBBBBBBBBBBBTBBBBBBBBBBBBBBBBBBBBBBBBBBBkHBBBBBBBBBB",
   "BBBDBBBBBBBBBBBBBBBBBBBBBBBBBBBBBBBBBBBBBBBBBBBBBBBBBBBBBBBBBBBBBKBBBBCBBBBBBBBEBBBCBBBDBBBB",
   "BBBBBBBBBBBBBBBBFBFBBBBBBBBBBBBBBBEBBBCDBFBBBBBBBYB15LahmFhIkIhEkcLBPBHBCh3KhTkdWi5ahA1sAhA5",
   "tAaaaaaaBBCCBCCCEBIaaaCBECIBHbCBEBFBBDHbaaaaaaaaaaaeZhBZhBZhBZhBZhBBkpVhCigOaGaGa"]

def variationSelectorSet : CharSet := .decode
  ["mgLDBBh5vQQ6g3QnQ"]

def whiteSpaceSet : CharSet := .decode
  ["JFSBjEBaBlufBirfLdCFBhPBj9AB"]

def xidContinueSet : CharSet := .decode
  ["hQKHaEBBahPBKBBBCBFXBfBuKEMOFHBBBRjVBCDDBBGFBBBUBiTBkLBFClGBhGCBGhJIhNBBBCBCBBIbEEdLFiKEjGBI",
   "CKBTCBQhbCjFOhWEBCBChOScELFYBGIiLBkBCKBTBICCCWBHBBDECJCCCEIBECBFCMKBBBCDBGECCWBHBCBCBCCBBFEC",
   "CDDBHEBBHQLDBJBDBWBHBCBFCKBDBDCBPECKJHBDBICCCWBHBCBFCJCCCDHDECBFCKBBQCBGDDBEDCBBBCDCDDDMEFDD",
   "BECBGBOKQNBDBXBQCJBDBEHCBDCBCECKQEBIBDBXBKBFCJBDBEHCGCBECKBDMNBDBhTBDBFFEHFCKKGBDBSDYBJBBCHD",
   "BEGBBBIGKCCNhaFPBKhHCBBBFBYBBBXCFBBBHBKCEhABXCGKLBBBBBEKBhEEUBSBhEJBhZiKGiOChGBBFBChLBqNBECH",
   "BBBEChJBEChBBECHBBBECPBhZBECiDCDJJOQQiWCGDzMCRBaFiLDLHWJWLUMNBDBCMiUDBECCKhBDBLGiZHhLFiGKfBM",
   "EMKhICFLhMEaGLhFcEhfBdCLGKNBIOBQhRiNDKRJMjUMhYIKDhRCLFhLCDQDBhHFwWCGChGCGCIBBBBBBBfChVBHBBDD",
   "BHDECGENFDBHPChRCTBcBNBQNhTNEBDMRBEBCKBBCGGBBBBBBQCEFFEBRhJizXnFGJMhGBBFBChYHBPYJHBHBHBHBHBH",
   "BHBHBhAwFDZPBFCFEiWCCCDBifFhLBieRhAhQQwAmuAiA10NiDhOCoNDcUhQEKBjThFJCjHCiDCCBBBIVhWEBThUMiGK",
   "KGYDBBhRChEMdDiBOLGfBhXJOCKGXDiJYDCQCFKGCGCGJHBHBhLBOGjbBCCKGq9EMXEhRooErOCjKhGHMFFMBNBFBBBC",
   "BCBjMhBkLGmaSiAChWhIKGQQQDCYDhBBBBDBBBBBBBBjeTKHaEBBaKiaDGCGCGCDhDMBaBTBCBPCOhCjbiFhVkIBkCdD",
   "hRPBfhANeFhLFeChEEIBFhKkeCKGhEEhEEhIIhUMLBPBHBCBLBPBHBCDhUMpXJWKIYGBhKBJiFGCBBhMBCDBCXKXJfiB",
   "TBCKWKaiGhYGCiAEBCFIBDBdCDEBhAdDdhDIBeZhWKWKTNSjOiJhXhTNhTNhIIKGhGDFBXnahKBCDCQDhXhBKBIhBfWh",
   "KVbXJiHfQJhcHBNZHKGhVBKEEIhECBJiFEEBNBBhDSBhFGEheHBBBEBPBKHhbFKGEBICCCWBHBCBFBKCCCDCBGBFHCHD",
   "FLKBBCBBhGBKBBCBBEBINCdiLFKEEeiGBBIKlGhWCJXGhCiBDBLKhGhZHKGUcbCPEKGHlZhbjFiKVICBCIBCBeBCCJMK",
   "iGIChOCIBCbhfIBIiKDBSiJmHhBPKGJBhNBJPKYeCWBOiJHBCBhMDBBCBJIKGGBCBhFBCBGHKpWXJRBhJDFNLiVBiP8a",
   "jGjPRmEiyMjBPhhQQWKj8bFyHm1Zhah2GxZHfBKGiPBKGeCFLhXJEMKJVFTtQhNDKmGiAkAiLEhZHRiACBCLCOl-YIhm",
   "WhJKo3HEBHBCBpDPBdDCBOEIsMioEjLFNDJHKDCkiRKwGhOCXweFDGIICHeEkUDtbiVBiHBCCBCCCEBMBBBHBiBBECIB",
   "HBcBEBFBBDHBqUCZBZBfBZBfBZBfBZBfBZBIChSwAhXEhSIBOBWFBPhiQfGGmVHBRCHBCBFFhehBBjQhNDOCKEBqBfRh",
   "auWhKmWhLvFHBEBCBPBmFLHhJiMEKhlGEBbBCBBCBBKBEBBBBGBEBBBBBBDBCBBCBBBBBBBBBBCBBCEBHBEBEBBBKBRF",
   "DBFBRjpUKhgGhp3AhAkhaGmeCl0COnpRPzOitCwehvCk6LFkjA13qQnQ"]

def xidStartSet : CharSet := .decode
  ["iBaGahPBKBEBFXBfBuKEMOFHBBBkBFBCDDBBGBBDBBBUBiTBkLIlGBhGCBGhJiHbEEhNhLhDCBjDBBPCHCKDCBQBBedi",
   "ZLBYhBJCEBFWEBJBDBXZHLFYBGRhKhahWDBSBHKPQEICCCWBHBBDEDBQBNCBDOCKBIGECCWBHBCBCBCfEBBTDQJBDBWB",
   "HBCBFDBSBPCXBLICCCWBHBCBFDBeCBDPBRBBGDDBEDCBBBCDCDDDMWBhUIBDBXBQDBaDCBCCeBEIBDBXBKBFDBfCBCPC",
   "RJBDBhJCBQBFDIDYGFSDYBJBBCHhahQBBNHhaCBBBFBYBBBKBBKBCFBBVEhABhfIBhEbFjThLUBQGEEDBDCHDENMBRhG",
   "BBFBChLBqNBECHBBBEChJBEChBBECHBBBECPBhZBECiDhFQQiWCGDzMCRBaFiLDLHSNTOSONBDPhUhDBEBiDiZHhJBBF",
   "iGKfhReCFLhMEahWXJhViSBidhPRIhWeNCKhMahEhJDKhECLFhLCDhJEBGBCDBFmAiAoWCGChGCGCIBBBBBBBfChVBHB",
   "BDDBHDECGENFDBHjUBNBQNjFBEBCKBBCGGBBBBBBQCEFFEBRhJizXnFGEDCMhGBBFBChYHBQXJHBHBHBHBHBHBHBHxGD",
   "ZJHFCFEiWGDBiaBEFhLBieRhAhQQwAmuAiA10NiDhOCoNDQKCUhPQfCiQhHJCjHCiDCCBBBIVQBDBEBXdhUOhSheGDBB",
   "CLcKXZdHhPcBQFBKKFBhJXDBIUXDBDhSBBDCCFCBBBYDCLHDMGCGCGJHBHBhLBOGjTdq9EMXEhRooErOCjKhGHMFFBBK",
   "BNBFBBBCBCBjMhBkLGmaSiAChWhIKjXBBBDBBBBBBBBjehEaGaLhYCfDGCGCGCDhDMBaBTBCBPCOhCjbiFhVoLdDhRhP",
   "hANeFhGKeChEEIBFhKkeShEEhEEhIIhUMLBPBHBCBLBPBHBCDhUMpXJWKIYGBhKBJiFGCBBhMBCDBCXKXJfiBTBCKWKa",
   "iGhYGCiABPEBDBdhKdDdhDIBcbhWKWKTNSjOiJhXhTNhTNhEhGcJXnahKGCQDhbdKBIWhKShOVbXMhVhZCCBNhNhAZah",
   "EdBCBIhDDBMhQOEVBBBhDSBZTChfHBBBEBPBKHhPhGICCCWBHBCBFDBSBMFeKBBCBBhGBBZBBBhMhVSEUDehQUCBBlYh",
   "PhJEhEhQUBhbhLNBiHbhFHlZhMjUiAfICBCIBCBYPBBBieIChHQBBBcBKhIHBVBLhOTBSiJmHhBfJBhFRBhRejQHBCBh",
   "GVBZGBCBhAOBqHTPBBNBhCjcBiP8ajGjPRmEiyMjBPhhQRGZj8bFyHm1Zeh3CxZHfRiPReShQQEfVFTtQhNmTiAkAiLF",
   "BiCNiACBBcl-YIhmWhJKo3HEBHBCBpDPBdDCBOEIsMioEjLFNDJHKl7GiVBiHBCCBCCCEBMBBBHBiBBECIBHBcBEBFBB",
   "DHBqUCZBZBfBZBfBZBfBZBfBZBIh5UfGGoFhekShNKHQBqBeShMvEcnEeCBvPHBEBCBPBmFhbiEHBhlUEBbBCBBCBBKB",
   "EBBBBGBEBBBBBBDBCBBCBBBBBBBBBBCBBCEBHBEBEBBBKBRFDBFBRkqEhp3AhAkhaGmeCl0COnpRPzOitCwehvCk6LFk",
   "jA"]

/-- The names of each property, and its table. -/
def binaryProperties : List (List String × CharSet) := [
  (["ahex", "asciihexdigit"], asciiHexDigitSet),
  (["alpha", "alphabetic"], alphabeticSet),
  (["bidic", "bidicontrol"], bidiControlSet),
  (["bidim", "bidimirrored"], bidiMirroredSet),
  (["ci", "caseignorable"], caseIgnorableSet),
  (["cased"], casedSet),
  (["cwcf", "changeswhencasefolded"], changesWhenCasefoldedSet),
  (["cwcm", "changeswhencasemapped"], changesWhenCasemappedSet),
  (["cwl", "changeswhenlowercased"], changesWhenLowercasedSet),
  (["cwt", "changeswhentitlecased"], changesWhenTitlecasedSet),
  (["cwu", "changeswhenuppercased"], changesWhenUppercasedSet),
  (["dash"], dashSet),
  (["di", "defaultignorablecodepoint"], defaultIgnorableCodePointSet),
  (["dep", "deprecated"], deprecatedSet),
  (["dia", "diacritic"], diacriticSet),
  (["emoji"], emojiSet),
  (["ecomp", "emojicomponent"], emojiComponentSet),
  (["emod", "emojimodifier"], emojiModifierSet),
  (["ebase", "emojimodifierbase"], emojiModifierBaseSet),
  (["epres", "emojipresentation"], emojiPresentationSet),
  (["extpict", "extendedpictographic"], extendedPictographicSet),
  (["ext", "extender"], extenderSet),
  (["grbase", "graphemebase"], graphemeBaseSet),
  (["grext", "graphemeextend"], graphemeExtendSet),
  (["grlink", "graphemelink"], graphemeLinkSet),
  (["hex", "hexdigit"], hexDigitSet),
  (["hyphen"], hyphenSet),
  (["idsb", "idsbinaryoperator"], idsBinaryOperatorSet),
  (["idst", "idstrinaryoperator"], idsTrinaryOperatorSet),
  (["idsu", "idsunaryoperator"], idsUnaryOperatorSet),
  (["idcompatmathcontinue"], idCompatMathContinueSet),
  (["idcompatmathstart"], idCompatMathStartSet),
  (["idc", "idcontinue"], idContinueSet),
  (["ids", "idstart"], idStartSet),
  (["ideo", "ideographic"], ideographicSet),
  (["joinc", "joincontrol"], joinControlSet),
  (["loe", "logicalorderexception"], logicalOrderExceptionSet),
  (["lower", "lowercase"], lowercaseSet),
  (["math"], mathSet),
  (["mcm", "modifiercombiningmark"], modifierCombiningMarkSet),
  (["nchar", "noncharactercodepoint"], noncharacterCodePointSet),
  (["oalpha", "otheralphabetic"], otherAlphabeticSet),
  (["odi", "otherdefaultignorablecodepoint"], otherDefaultIgnorableCodePointSet),
  (["ogrext", "othergraphemeextend"], otherGraphemeExtendSet),
  (["oidc", "otheridcontinue"], otherIDContinueSet),
  (["oids", "otheridstart"], otherIDStartSet),
  (["olower", "otherlowercase"], otherLowercaseSet),
  (["omath", "othermath"], otherMathSet),
  (["oupper", "otheruppercase"], otherUppercaseSet),
  (["patsyn", "patternsyntax"], patternSyntaxSet),
  (["patws", "patternwhitespace"], patternWhiteSpaceSet),
  (["pcm", "prependedconcatenationmark"], prependedConcatenationMarkSet),
  (["qmark", "quotationmark"], quotationMarkSet),
  (["radical"], radicalSet),
  (["ri", "regionalindicator"], regionalIndicatorSet),
  (["sterm", "sentenceterminal"], sentenceTerminalSet),
  (["sd", "softdotted"], softDottedSet),
  (["term", "terminalpunctuation"], terminalPunctuationSet),
  (["uideo", "unifiedideograph"], unifiedIdeographSet),
  (["upper", "uppercase"], uppercaseSet),
  (["vs", "variationselector"], variationSelectorSet),
  (["wspace", "whitespace", "space"], whiteSpaceSet),
  (["xidc", "xidcontinue"], xidContinueSet),
  (["xids", "xidstart"], xidStartSet)]

end ElementRules.Pattern

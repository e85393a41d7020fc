import ElementRules.Pattern.Table

/-!
The characters of which the name of a group may consist. They follow a later version of the standard
than the properties that a pattern can ask for.
-/

namespace ElementRules.Pattern

def nameLetterSet : CharSet := .decode
  ["iBaGahPBKBEBFXBfBuKEMOFHBBBiWBdSBCCEBBGBBDBBBUBiTBkLIlGBhGCBGhJhHOBBBCBCBBIbEEdLFhYBHOjGBIEI",
   "EDKDCBQhQNjFYhBJCEBFYCTTZHLFYBHHBIhKKMDHGiMBQBDEPNTBICCCWBHBBDEDICCCCBBIBECBFMCKBEDBGECCWBHB",
   "CBCBCEFECCCEBHEBBRGLDBJBDBWBHBCBFDJBDBCDBPEVEEDBICCCWBHBCBFDICCCCJCECBFNBQCBGDDBEDCBBBCDCDDD",
   "MEFDDBDDBGBhINBDBXBQDIBDBDICBDBCCEcEBIBDBXBKBFDIBDBDICFDBENDMNBDBhJCIBDBDBBFEHFWGBDBSDYBJBBC",
   "HIGBBBISCNhaFHGBhTCBBBFBYBBBTBDCFBBGBOEhABhfIBhEETEQBhEiDhXBBCFQiAKEChGBBFBChLBqNBECHBBBEChJ",
   "BEChBBECHBBBECPBhZBECiDhFQQiWCGDzMCRBaFiLDLHULVMUMNBDBCMhUCTOBEBiDiZHhLFiGKfBMEJXeCFLhMEahWc",
   "EhfCUhSBXCLDhRhUBPBIhThKCEKhMBLOhXWDKhECLFhLCDhJEBGBCDBFmAThCLoWCGChGCGCIBBBBBBBfChVBHBBDDBH",
   "DECGENFDBHjUBNBQNjFBEBCKBBDFGBBBBBBEBLCEFFEBRhJ5NhUh4WnFGEDCMhGBBFBChYHBQXJHBHBHBHBHBHBHBHBh",
   "AhPBuVDZJHFCFEiWGDBiaBEFhLBieRhAhQQwAmuAiA10NiDhOCoNDQKCUhPFIDjRhHJCjHCiSUVBhBYhUMiEBBhMGDBB",
   "DKhBFhDNdDhTBMPBQQKFBhXJOSXDiFBBBBYDCQCELGCGCGJHBHBhLBOGjbVq9EMXEhRooErOCjKhGHMFFMBNBFBBBCBC",
   "BjMhBrLSiAChWhIMjUFBkHhEaGaLiZDGCGCGCDhDMBaBTBCBPCOhCjbiFhVoLdDhRhPhANeFhLFeChEEIBFhKkeShEEh",
   "EEhIIhUMLBPBHBCBLBPBHBCDhUMpXJWKIYGBhKBJiFGCBBhMBCDBCXKXJfiBTBCKWKaGahGhYGCiAEBCFIBDBdhKdDdh",
   "DIBcbhWKWKTNSjOiJhXhTNhTNhIhCcDBFXnahKBCDCQGhSDDdKBIWhKShOVbXJiGhLFKhZJBNZXhTREIhDDBJiABEJCK",
   "BBBhDSBhCCBGEheHBBBEBPBKHhZXEBICCCWBHBCBFDICCCCDBGBFHcKBBCBBhGBKBBCBBEBCDBBBhMiCBDBEUDeiCCCB",
   "BlYhWCHZGhChfBBDBhbhWCBiHbCOVHlZhZjHiAfICBCIBCBeBCCCCEidIChOCGBBBCbhTCKRiIFBSiJjHIiYhBfJBhNB",
   "HBBhReCWBOiJHBCBhMDBBCBDBBCCYGBCBhFBCBEBBXhMoEXJRBhJDDjPBiP8ajGjPRmEiyMjBPhhQRGZj8bFyHm1ZhPh",
   "2RxZHfRiPReShQQEfVFTtQhNmTiAhAZCZhMiLEhZHRiACBBMHJnmWhJhAjBjTovdEBHBCBpDPBdDCBOEIsMioEjLFNDJ",
   "HKEBl7BiVBiHBCCBCCCEBMBBBHBiBBECIBHBcBEBFBBDHBqUCZBZBfBZBfBZBfBZBfBZBIh5UfGGmVHBRCHBCBFFhehB",
   "BjQhNKHQBqBeShMvEcnEeCBmPfBWICnAHBEBCBPBmFhbiEDBDBhlUEBbBCBBCBBKBEBBBBGBEBBBBBBDBCBBCBBBBBBB",
   "BBBCBBCEBHBEBEBBBKBRFDBFBRzUaGaGajzWhp3AhAkoeCl0OCnpRPzOitCwehvCk6LFopK"]

def nameNumberSet : CharSet := .decode
  ["hQKjYCFBCDhtBKkGKmGKscKjWKEGjMKjWKjWKCGjONjTKIHjHKjIHHTjNKjAKjWKiGUoMKiGK2PU7RDnPKGKWKpMKkAL",
   "lFKGKlWKiWKkGKGKhgWBDGGKmGhTCF2WhciOWzWehrJB4JBZJODqXEkKKeIBPhAKhHP87AKlcKqAGkaKhGKmGKWKiWKs",
   "WK04WKvNhNMhZRCqVbhEEdBIBkGFmKK9OIZHhHJiLFWGlACCQChOiAJhUCeDiLFjIIYIhJHqKGhQKGKoWfkeKhKEjQHk",
   "GekAKhcKkQKHUnbKqWKjWKrWKjGKGUiMMtETidK0WKiWdnDKiGKhWKrGKjGVhhLjPvmBKipGKiWKkGKBHwOKoGXqdD3n",
   "ZKhuGUMUjMZhiVhSiqAKtGKvWKnXK2MJkAK4XhbBDBEiMhNBP+CNi3DK"]

end ElementRules.Pattern

import ElementRules.Pattern.Table

/-!
The general category of every code point, as runs of equal value, and the names of the
categories and of their groups. Surrogates are no characters and have no name here.
-/

namespace ElementRules.Pattern

/-- Two-letter codes; the place of a code is the value in the table. -/
def generalCategoryCodes : List String := [
  "cc", "cf", "cn", "co", "cs", "ll", "lm", "lo", "lt", "lu", "mc", "me",
  "mn", "nd", "nl", "no", "pc", "pd", "pe", "pf", "pi", "po", "ps", "sc",
  "sk", "sm", "so", "zl", "zp", "zs"]

/-- The long names of single categories: name and code. -/
def generalCategoryNames : List (String × String) := [
  ("control", "cc"), ("cntrl", "cc"), ("format", "cf"),
  ("unassigned", "cn"), ("privateuse", "co"), ("lowercaseletter", "ll"),
  ("modifierletter", "lm"), ("otherletter", "lo"), ("titlecaseletter", "lt"),
  ("uppercaseletter", "lu"), ("spacingmark", "mc"), ("enclosingmark", "me"),
  ("nonspacingmark", "mn"), ("decimalnumber", "nd"), ("digit", "nd"),
  ("letternumber", "nl"), ("othernumber", "no"), ("connectorpunctuation", "pc"),
  ("dashpunctuation", "pd"), ("closepunctuation", "pe"), ("finalpunctuation", "pf"),
  ("initialpunctuation", "pi"), ("otherpunctuation", "po"), ("openpunctuation", "ps"),
  ("currencysymbol", "sc"), ("modifiersymbol", "sk"), ("mathsymbol", "sm"),
  ("othersymbol", "so"), ("lineseparator", "zl"), ("paragraphseparator", "zp"),
  ("spaceseparator", "zs")]

/-- Groups of categories: names and the codes of the members. -/
def generalCategoryGroups : List (List String × List String) := [
  (["c", "other"], ["cc", "cf", "cn", "co"]),
  (["l", "letter"], ["ll", "lm", "lo", "lt", "lu"]),
  (["lc", "casedletter"], ["ll", "lt", "lu"]),
  (["m", "mark", "combiningmark"], ["mc", "me", "mn"]),
  (["n", "number"], ["nd", "nl", "no"]),
  (["p", "punctuation", "punct"], ["pc", "pd", "pe", "pf", "pi", "po", "ps"]),
  (["s", "symbol"], ["sc", "sk", "sm", "so"]),
  (["z", "separator"], ["zl", "zp", "zs"])]

def generalCategories : ValueTable := .decode
  ["AAhAdBVDXBVDWBSBVBZBVBRBVCNKVCZDVCJaWBVBSBYBQBYBFaWBZBSBZBAhBdBVBXEaBVBYBaBHBUBZBBBaBYBaBZBP",
   "CYBFBVCYBPBHBTBPDVBJXZBJHFYZBFIJBFBJBFBJBFBJBFBJBFBJBFBJBFBJBFBJBFBJBFBJBFBJBFBJBFBJBFBJBFBJ",
   "BFBJBFBJBFBJBFBJBFBJBFBJBFBJBFBJBFBJBFBJBFBJBFBJBFCJBFBJBFBJBFBJBFBJBFBJBFBJBFBJBFCJBFBJBFBJ",
   "BFBJBFBJBFBJBFBJBFBJBFBJBFBJBFBJBFBJBFBJBFBJBFBJBFBJBFBJBFBJBFBJBFBJBFBJBFBJBFBJBFBJCFBJBFBJ",
   "BFDJCFBJBFBJCFBJDFCJEFBJCFBJDFDJCFBJCFBJBFBJBFBJCFBJBFCJBFBJCFBJDFBJBFBJCFCHBJBFDHEJBIBFBJBI",
   "BFBJBIBFBJBFBJBFBJBFBJBFBJBFBJBFBJBFBJBFCJBFBJBFBJBFBJBFBJBFBJBFBJBFBJBFBJBFCJBIBFBJBFBJDFBJ",
   "BFBJBFBJBFBJBFBJBFBJBFBJBFBJBFBJBFBJBFBJBFBJBFBJBFBJBFBJBFBJBFBJBFBJBFBJBFBJBFBJBFBJBFBJBFBJ",
   "BFBJBFBJBFBJBFBJBFBJBFHJCFBJCFCJBFBJEFBJBFBJBFBJBFBJBFiFHBFbGSYEGMYOGFYHGBYBGBYRMjQJBFBJBFBG",
   "BYBJBFBCCGBFDVBJBCEYCJBVBJDCBJBCBJCFBJRCBJJFhDJBFCJDFDJBFBJBFBJBFBJBFBJBFBJBFBJBFBJBFBJBFBJB",
   "FBJBFBJBFFJBFBZBJBFBJCFCJhTFhQJBFBJBFBJBFBJBFBJBFBJBFBJBFBJBFBJBFBJBFBJBFBJBFBJBFBJBFBJBFBJB",
   "FBJBFBaBMFLCJBFBJBFBJBFBJBFBJBFBJBFBJBFBJBFBJBFBJBFBJBFBJBFBJBFBJBFBJBFBJBFBJBFBJBFBJBFBJBFB",
   "JBFBJBFBJBFBJBFBJBFBJBFBJBFBJCFBJBFBJBFBJBFBJBFBJBFBJBFCJBFBJBFBJBFBJBFBJBFBJBFBJBFBJBFBJBFB",
   "JBFBJBFBJBFBJBFBJBFBJBFBJBFBJBFBJBFBJBFBJBFBJBFBJBFBJBFBJBFBJBFBJBFBJBFBJBFBJBFBJBFBJBFBJBFB",
   "JBFBJBFBJBFBJBFBJBFBJBFBJBFBJBFBJBFBJBFBJBFBJBFBJBFBJBFBJBFBJBFBCBJhGCCGBVGFhJVBRBCCaCXBCBMh",
   "NRBMBVBMCVBMCVBMBCIHbCEHEVCCLBGZDVCXBVCaCMLVBBBVDHhAGBHKMVNKVEHCMBHjDVBHBMHBBaBMGGCMCaBMEHCN",
   "KHDaCHBVOCBBBHBMBHeMbCCHiZMLHBCONKHhBMJGCaBVDGBCCMBXCHWMEGBMJGBMDGBMFCCVPCBHZMDCCVBCBHLCFHYY",
   "BHGCBBCCFMJHhJGBMYBBMhAKBHhWMBKBMBHBKDMIKEMBKCHBMHHKMCVCNKVBGBHPMBKCCBHICCHCCCHWCBHHCBHBCDHE",
   "CCMBHBKDMECCKCCCKCMBHBCIKBCEHCCBHDMCCCNKHCXCPGaBXBHBVBMBCCMCKBCBHGCEHCCCHWCBHHCBHCCBHCCBHCCC",
   "MBCBKDMCCEMCCCMDCDMBCHHECBHBCHNKMCHDMBVBCKMCKBCBHJCBHDCBHWCBHHCBHCCBHFCCMBHBKDMFCBMCKBCBKCMB",
   "CCHBCPHCMCCCNKVBXBCHHBMGCBMBKCCBHICCHCCCHWCBHHCBHCCBHFCCMBHBKBMBKBMECCKCCCKCMBCHMCKBCEHCCBHD",
   "MCCCNKaBHBPGCKMBHBCBHGCDHDCBHECDHCCBHBCBHCCDHCCDHDCDHMCEKCMBKCCDKDCBKDMBCCHBCGKBCONKPDaGXBaB",
   "CFMBKDMBHICBHDCBHXCBHQCCMBHBMDKECBMDCBMECHMCCBHDCCHBCCHCMCCCNKCHVBPHaBHBMBKCVBHICBHDCBHXCBHK",
   "CBHFCCMBHBKBMBKFCBMBKCCBKCMCCHKCCGHCCBHCMCCCNKCBHCKBCMMCKCHJCBHDCBHhJMCHBKDMECBKDCBKDMBHBaBC",
   "EHDKBPHHDMCCCNKPJaBHGCBMBKCCBHSCDHYCBHJCBHBCCHHCDMBCEKDMDCBMBCBKICGNKCCKCVBCMHhQMBHCMHCEXBHG",
   "GBMIVBNKVCChFHCCBHBCBHFCBHYCBHBCBHKMBHCMJHBCCHFCBGBCBMHCBNKCCHEChAHBaDVPaBVBaDMCaGNKPKaBMBaB",
   "MBaBMBWBSBWBSBKCHICBHhECEMOKBMFVBMCHFMLCBMhECBaIMBaGCBaCVFaEVCChFHhLKCMEKBMGKBMCKCMCHBNKVGHG",
   "KCMCHEMDHBKDHCKHHDMEHNMBKCMCKGMBHBKBNKKDMBaCJhGCBJBCFJBCCFhLVBGBFDHqJCBHECCHHCBHBCBHECCHhJCB",
   "HECCHhBCBHECCHHCBHBCBHECCHPCBHhZCBHECCHiDCCMDVJPUCDHQaKCGJiWCCFGCCRBHzMaBVBHRdBHaWBSBCDHiLVD",
   "ODHICHHSMDKBCJHTMCKBVCCJHSMCCMHNCBHDCBMCCMHhUMCKBMHKIMBKCMLVDGBVDXBHBMBCCNKCGPKCGVGRBVEMDBBM",
   "BNKCGHhDGBHhVCHHFMCHhCMBHBCFHiGCKHfCBMDKEMCKDCEKCMBKGMDCEaBCDVCNKHeCCHFCLHhMCEHaCGNKPBCDahCH",
   "XMCKCMBCCVCHhVKBMBKBMHCBMBKBMBKCMIKGMKCCMBNKCGNKCGVHGBVGCCMOLBMQChRMEKBHhPMBKBMFKBMBKFMBKCHI",
   "CBVCNKVHaKMJaJVDMCKBHeKBMEKCMCKBMDHCNKHhMMBKBMCKDMBKBMDKCCIVEHhEKIMIKCMCCDVFNKCDHDNKHeGGVCFJ",
   "JBFBCFJhLCCJDVICIMDVBMNKBMHHEMBHGMBHCKBMCHBCFFhMGhfFNGBFhCGhFMiAJBFBJBFBJBFBJBFBJBFBJBFBJBFB",
   "JBFBJBFBJBFBJBFBJBFBJBFBJBFBJBFBJBFBJBFBJBFBJBFBJBFBJBFBJBFBJBFBJBFBJBFBJBFBJBFBJBFBJBFBJBFB",
   "JBFBJBFBJBFBJBFBJBFBJBFBJBFBJBFBJBFBJBFBJBFBJBFBJBFBJBFBJBFBJBFBJBFBJBFBJBFBJBFBJBFBJBFBJBFB",
   "JBFBJBFBJBFBJBFBJBFBJBFBJBFBJBFBJBFBJBFBJBFBJBFBJBFBJBFBJBFBJBFBJBFBJBFBJBFBJBFBJBFBJBFJJBFB",
   "JBFBJBFBJBFBJBFBJBFBJBFBJBFBJBFBJBFBJBFBJBFBJBFBJBFBJBFBJBFBJBFBJBFBJBFBJBFBJBFBJBFBJBFBJBFB",
   "JBFBJBFBJBFBJBFBJBFBJBFBJBFBJBFBJBFBJBFBJBFBJBFBJBFBJBFBJBFBJBFBJBFBJBFBJBFBJBFBJBFBJBFBJBFB",
   "JBFBJBFJJIFGCCJGCCFIJIFIJIFGCCJGCCFICBJBCBJBCBJBCBJBFIJIFOCCFIIIFIIIFIIIFFCBFCJEIBYBFBYDFDCB",
   "FCJEIBYDFECCFCJECBYDFIJFYDCCFDCBFCJEIBYCCBdLBFRGVCUBTBWBUCTBWBUBVIbBcBBFdBVJUBTBVEQCVDZBWBSB",
   "VLZBVBQBVKdBBFCBBKPBGBCCPGZDWBSBGBPKZDWBSBCBGNCDXhBCPMNLEMBLDMMCPaCJBaEJBaCFBJDFCJDFBaBJBaCZ",
   "BJFaGJBaBJBaBJBaBJEaBFBJEFBHEFBaCFCJCZFJBFEaBZBaCFBaBPQOhDJBFBOEPBaCCEZFaFZCaEZBaCZBaCZBaHZB",
   "afZCaCZBaBZBafZoMaIWBSBWBSBaUZCaHWBSBaiRZBaeZZahIZGaiICWaLCVPhcaiOPWalXZBaJZBahWZIajPZBanYWB",
   "SBWBSBWBSBWBSBWBSBWBSBWBSBPeahMZFWBSBZfWBSBWBSBWBSBWBSBWBSBZQaoAZkDWBSBWBSBWBSBWBSBWBSBWBSBW",
   "BSBWBSBWBSBWBSBWBSBZhfWBSBWBSBZhAWBSBZoCahQZVaCZGahHCCahACBajJJhQFhQJBFBJDFCJBFBJBFBJBFBJEFB",
   "JBFCJBFGGCJDFBJBFBJBFBJBFBJBFBJBFBJBFBJBFBJBFBJBFBJBFBJBFBJBFBJBFBJBFBJBFBJBFBJBFBJBFBJBFBJB",
   "FBJBFBJBFBJBFBJBFBJBFBJBFBJBFBJBFBJBFBJBFBJBFBJBFBJBFBJBFBJBFBJBFBJBFBJBFBJBFBJBFBJBFBJBFBJB",
   "FBJBFBJBFBJBFBJBFBJBFBJBFCaGJBFBJBFBMDJBFBCFVEPBVCFhGCBFBCFFBCCHhYCHGBVBCOMBHXCJHHCBHHCBHHCB",
   "HHCBHHCBHHCBHHCBHHCBMhAVCUBTBUBTBVDUBTBVBUBTBVJRBVCRBVBUBTBVCUBTBWBSBWBSBWBSBWBSBVFGBVKRCVER",
   "BVBWBVNaCVDWBSBWBSBWBSBWBSBRBChCaaCBaiZCMamWCaaQdBVDaBGBHBOBWBSBWBSBWBSBWBSBWBSBaCWBSBWBSBWB",
   "SBWBSBRBWBSCaBOJMEKCRBGFaCODGBHBVBaCCBHiWCCMCYCGCHBRBHiaVBGDHBCFHhLCBHieCBaCPEaKHhAahGCJaBHQ",
   "afCBPKaePIaBPPahAPKahHPPaqAHmuAaiAH0wVGBHhjXCDahXCJHhIGGVCHoMGBVDHQNKHCCUJBFBJBFBJBFBJBFBJBF",
   "BJBFBJBFBJBFBJBFBJBFBJBFBJBFBJBFBJBFBJBFBJBFBJBFBJBFBJBFBJBFBJBFBJBFBJBFBHBMBLDVBMKVBGBJBFBJ",
   "BFBJBFBJBFBJBFBJBFBJBFBJBFBJBFBJBFBJBFBJBFBJBFBJBFBGCMCHiGOKMCVGCIYXGJYCJBFBJBFBJBFBJBFBJBFB",
   "JBFBJBFDJBFBJBFBJBFBJBFBJBFBJBFBJBFBJBFBJBFBJBFBJBFBJBFBJBFBJBFBJBFBJBFBJBFBJBFBJBFBJBFBJBFB",
   "JBFBJBFBJBFBJBFBJBFBJBFBJBFBJBFBJBFBJBFBGBFIJBFBJBFBJCFBJBFBJBFBJBFBJBFBGBYCJBFBJBFBHBJBFBJB",
   "FDJBFBJBFBJBFBJBFBJBFBJBFBJBFBJBFBJBFBJBFBJFFBJFFBJBFBJBFBJBFBJBFBJBFBJBFBJBFBJEFBJBFBJCFBCC",
   "JBFBCBFBCBFBJBFBJBFBJBFBJBCVGDJBFBHBGCFBHHMBHDMBHEMBHXKCMCKBaEMBCDPGaCXBaBCGHhUVECIKCHhSKQMC",
   "CIVCNKCGMSHGVDHBVBHCMBNKHcMIVCHXMLKCCLVBHdCDMDKBHhPMBKCMEKCMCKDVNCBGBNKCEVCHFMBGBHJNKHFCBHhJ",
   "MGKCMCKCMCCJHDMBHIMBKBCCNKCCVEHQGBHGaDHBKBMBKBHhSMBHBMDHCMCHFMCHBMBHBCYHCGBVCHLKBMCKCVCHBGCK",
   "BMBCKHGCCHGCCHGCJHHCBHHCBFhLYBGEFJGBYCCEFiQHhDKCMBKCMBKCVBKBMBCCNKCGHq9ECMHXCEHhRCEEigADmoAH",
   "rOCCHjKChGFHCMFFCFHBMBHKZBHNCBHFCBHBCBHCCBHCCBHjMYRCQHrLSBWBaQHiACCHhWCHaBChAHMXBaDMQVHWBSBV",
   "BCGMQVBRCQCWBSBWBSBWBSBWBSBWBSBWBSBWBSBWBSBVCWBSBVEQDVDCBVERBWBSBWBSBWBSBVDZBRBZDCBVBXBVCCEH",
   "FCBHkHCCBBCBVDXBVDWBSBVBZBVBRBVCNKVCZDVCJaWBVBSBYBQBYBFaWBZBSBZBWBSBVBWBSBVCHKGBHhNGCHfCDHGC",
   "CHGCCHGCCHDCDXCZBYBaBXCCBaBZEaCCKBDaCCCHMCBHaCBHTCBHCCBHPCCHOChCHjbCFVDCEPhNCDaJOhVPEaRPCaDC",
   "BaNCDaBChPahNMBCkCHdCDHhRCPMBPbCEHhAPECJHUOBHIOBCFHhGMFCFHeCBVBHhECEHIVBOFChKJhIFhIHiOCCNKCG",
   "JhECEFhECEHhICIHhUCLVBJLCBJPCBJHCBJCCBFLCBFPCBFHCBFCCDHhUCMHpXCJHWCKHICYGGCBGhKCBGJCiFHGCCHB",
   "CBHhMCBHCCDHBCCHXCBVBPIHXaCPHHfCIPJChQHTCBHCCFPFHWPGCDVBHaCFVBCiAHhYCEPCHCPQCCPhOHBMDCBMCCFM",
   "EHECBHDCBHdCCMDCEMBPJCHVJCHHdPCVBHdPDChAHIaBHcMCCEPFVHCJHhWCDVHHWCCPIHTCFPIHSCHVECMPHCiQHiJC",
   "hXJhTCNFhTCHPGHhEMECINKCGNKHEGBHBJWCDMFRBGBFWCIZCCmQPfCBHhKCBMCRBCCHCCQHDChXMEHdPKHBCIHWMLPE",
   "VFCWHSMEVEChGHVPHCUHXCJKBMBKBHhVMPVHCEPUNKMBHCMCHBCJMDKBHhNKDMEKCMCVCBBVEMBCKBBCCHZCHNKCGMDH",
   "hEMFKBMICBNKVEHBKCHBCIHhDMBVCHBCJMCKBHhQKDMJKCHEVEMEVBKBMBNKHBVBHBVDCBPUCLHSCBHZKDMDKCMBKBMC",
   "VGMBHCMBCheHHCBHBCBHECBHPCBHKVBCGHhPMBKDMICFNKCGMCKCCBHICCHCCCHWCBHHCBHCCBHFCBMCHBKCMBKECCKC",
   "CCKDCCHBCGKBCFHFKCCCMHCDMFCLHKCBHBCCHBCBHhGCBHBKDMGCBKBCCKBCBKECBKCMBKBMBHBMBHBVCCBVCCIMCCdH",
   "hVKDMIKCMDKBMBHEVFNKVCCBVBMBHDCeHhQKDMGKBMBKEMCKBMCHCVBHBCINKClGHhPKDMECCKEMCKBMCVXHEMCChCHh",
   "QKDMIKCMBKBMCVDHBCLNKCGVNCTHhLMBKBMBKCMGKBMBHBVBCGNKCGNUCcHbCCMBKBMBKCMEKBMFCENKPCVDaBHHClZH",
   "hMKDMJKBMCVBCjEJhAFhANKPJCMHICCHBCCHICBHCCBHYKGCBKCCCMCKBMBHBKBHBKBMBVDCJNKCiGHICCHhHKDMECCM",
   "CKEMBHBVBHBKBCbHBMKHhIMGKBHBMEVIMBCIHBMGKCMDHhOMNKBMCVDHBVFCNHiJCHVKClWHhBVBCONKCGHJCBHhFKBM",
   "HCBMGKBMBHBVFCKNKPTCDVCHeCCMWCBKBMHKBMCKBMCCiJHHCBHCCBHhGMGCDMBCBMCCBMHHBMBCINKCGHGCBHCCBHhA",
   "KFCBMCCBKCMBKBMBHBCHNKCpWHTMCKCVCCHMCHBKBHNCBHhCKCMFCDKCMBKBMBVNNKMBCiVHBCPPVaIXEaRCNVBH8aCj",
   "GOjPCBVFCLHmECiyMHjBVCCNHhhQBQMBHGMPCKHj8bCFHyHCm1ZHeMMKDMDNKCh2GHxZCHHfCBNKCEVCHiPCBNKCGHeC",
   "CMFVBCKHhQMHVFaEGEVBaBCKNKCBPHCBHVCFHTCtQGDHhIGCVDNKCmGJhAFhAPXVECjFHiLCEMBHBKhXCHMEGNCiAGCV",
   "BGBMBCLKCCOHl-YCIHhmWChJHKCo3HGECBGHCBGCCBHpDCPHBCdHDCCHBCOHECIHsMCioEHjLCFHNCDHJCHHKCCaBMCV",
   "BBECj6canQNKCGatUCiMMhOCCMXCJajUChcanWCKahHCCahcKCMDaDKGBIMIaCMHaeMEahdCVaiCMDaBCjaPUCMPUCMa",
   "iXCJPZCkHJaFaJaFHCBFSJaFaJBCBJCCCJBCCJCCCJECBJIFECBFBCBFHCBFLJaFaJCCBJECCJICBJHCBFaJCCBJECBJ",
   "FCBJBCDJHCBFaJaFaJaFaJaFaJaFaJaFaJaFcCCJZZBFZZBFGJZZBFZZBFGJZZBFZZBFGJZZBFZZBFGJZZBFZZBFGJBF",
   "BCCNhSawAMhXaEMhSaIMBaOMBaCVFCPMFCBMPChiQFKHBFUCGFGCmVMHCBMRCCMHCBMCCBMFCFGheChBMBCjQHhNCDMH",
   "GHCCNKCEHBaBCqAHeMBCRHhMMENKCFXBCuQHbGBMENKCmWHeMCHBNKCEVBCvAHHCBHECBHCCBHPCBHmFCCPJMHChJJhC",
   "FhCMHGBCENKCEVCC4RPhbaBPDXBPECiMPhNaBPPCmCHECBHbCBHCCBHBCCHBCBHKCBHECBHBCBHBCGHBCEHBCBHBCBHB",
   "CBHDCBHCCBHBCCHBCBHBCBHBCBHBCBHBCBHCCBHBCCHECBHHCBHECBHECBHBCBHKCBHRCFHDCBHFCBHRChUZCCoOahMC",
   "EajECMaPCCaPCBaPCBahFCKPNalBChYadCNahMCEaJCHaCCOaGCkaanbYFa2YCEaRCDaNCDajXCEaifCGaMCEaBCPaMC",
   "EahYCIaKCGahICIaeCCaMCEaCCheaqUCMaOCCaNCDaKCFahYCHaPCCaLCGaJCHakTCBaicNKChgGHhp3AChAHkhaCGHm",
   "eCCHl0CCOHnpRCPHzOCitCHweChvCHk6LCFHkjAC13iRBBCeBjACkAMnQCh-wQDh--eCCDh--eC"]

end ElementRules.Pattern

import ElementRules.Pattern.Table

/-!
Where texts may be cut: the grapheme cluster, word and sentence break classes of every code point,
and the version of the standard in which it was assigned, as runs of equal value.
-/

namespace ElementRules.Pattern

/-- Grapheme cluster breaks: the names of each class; a class that cannot be asked for has none. -/
def graphemeBreakNames : List (List String) := [
  ["cn", "control"], ["cr"], ["ex", "extend"], ["l"], ["lf"], ["lv"], ["lvt"],
  ["pp", "prepend"], ["regionalindicator", "ri"], ["sm", "spacingmark"], ["t"], ["v"], ["zwj"]]

def graphemeBreak : ValueTable := .decode
  ["AAKEBACBBASjDifAhBjDNABjDySCjQjDoTCHjDoHChNjDBCBjDBCCjDBCCjDBCBjDhYHGjDKCLjDBABjDhOCVjDQCBjD",
   "jFCHHBjDBCGjDCCCjDBCEjDhBHBjDBCBjDeCbjDibCLjDhaCJjDJCBjDYCEjDBCJjDBCDjDBCFjDhLCDjDhUHCjDFCJj",
   "DhKCYHBChAJBjDhWCBJBCBjDBJDCIJECBJCjDBCHjDKCCjDdCBJCjDhYCBjDBCBJCCEjDCJCjDCJCCBjDJCBjDKCCjDa",
   "CBjDCCCJBjDhYCBjDBJDCCjDECCjDCCDjDDCBjDeCCjDDCBjDLCCJBjDhYCBjDBJDCFjDBCCJBjDBJCCBjDUCCjDWCGj",
   "DBCBJCjDhYCBjDBCCJBCEjDCJCjDCJCCBjDHCDjDKCCjDeCBjDhbCBJBCBJCjDDJDjDBJDCBjDJCBjDhICBJDCBjDhXC",
   "BjDBCDJEjDBCDjDBCEjDHCCjDLCCjDdCBJCjDhYCBjDBJBCCJBCBJCjDBCDjDBCEjDHCCjDLCCjDPJBjDMCCJCjDhXCC",
   "jDBCBJCCEjDBJDjDBJDCBHBjDICBjDKCCjDdCBJCjDiGCBjDECBJCCDjDBCBjDBJHCBjDSJCjDhdCBjDBJBCHjDMCIjD",
   "jCCBjDBJBCJjDLCHjDiJCCjDbCBjDBCBjDBCBjDEJCjDhRCOJBCFjDBCCjDFCLjDBChEjDJCBjDjGCEJBCGjDBCCJCCC",
   "jDXJCCCjDECDjDQCEjDNCBjDBJBCCjDGCBjDPCBjDjCDjALiIKiYjDqdCDjD9SCEjDcCDjDdCCjDeCCjDiACCJBCHJIC",
   "BJCCLjDJCBjDhNCDABCBjDjVCCjDhCCBjDjWCDJECCJDjDEJCCBJGCDjDmbCCJCCBjDhZJBCBJBCHjDBCBjDBCBjDCCI",
   "JGCKjDCCBjDhQCfjDhRCEJBjDhPCKJECDjDhGCJjDMCCJBjDeJBCEJCCGjDhYCBJBCCJDCBJBCFjDhQJICIJCCCjDkYC",
   "DjDBCNJBCHjDECBjDGCBjDCJBCCjDmGCiAjDwLABCBMBACjDYAHjDhRAQjDjAChBjDi-eCDjDkNCBjDjAChAjDxKCGjD",
   "jJCCjD9uUCEjDBCKjDhACCjDiQCCjDoQCBjDDCBjDECBjDXJCCCJBjDECBjDiTJCjDhSJQCCjDaCSjDNCBjDhGCIjDZC",
   "LJBCBjDMDdjDDCDJBjDhPCBJCCEJCCCJCCBjDhECBjDiDCGJCCCJCCCjDMCBjDICBJBjDhOCBjDhTCBjDBCDjDCCCjDF",
   "CCjDBCBjDhJJBCCJCjDFJBCBjDnMJCCBJCCBJCjDBJBCBjDSFBGbFBGbFBGbFBGbFBGbFBGbFBGbFBGbFBGbFBGbFBGb",
   "FBGbFBGbFBGbFBGbFBGbFBGbFBGbFBGbFBGbFBGbFBGbFBGbFBGbFBGbFBGbFBGbFBGbFBGbFBGbFBGbFBGbFBGbFBGb",
   "FBGbFBGbFBGbFBGbFBGbFBGbFBGbFBGbFBGbFBGbFBGbFBGbFBGbFBGbFBGbFBGbFBGbFBGbFBGbFBGbFBGbFBGbFBGb",
   "FBGbFBGbFBGbFBGbFBGbFBGbFBGbFBGbFBGbFBGbFBGbFBGbFBGbFBGbFBGbFBGbFBGbFBGbFBGbFBGbFBGbFBGbFBGb",
   "FBGbFBGbFBGbFBGbFBGbFBGbFBGbFBGbFBGbFBGbFBGbFBGbFBGbFBGbFBGbFBGbFBGbFBGbFBGbFBGbFBGbFBGbFBGb",
   "FBGbFBGbFBGbFBGbFBGbFBGbFBGbFBGbFBGbFBGbFBGbFBGbFBGbFBGbFBGbFBGbFBGbFBGbFBGbFBGbFBGbFBGbFBGb",
   "FBGbFBGbFBGbFBGbFBGbFBGbFBGbFBGbFBGbFBGbFBGbFBGbFBGbFBGbFBGbFBGbFBGbFBGbFBGbFBGbFBGbFBGbFBGb",
   "FBGbFBGbFBGbFBGbFBGbFBGbFBGbFBGbFBGbFBGbFBGbFBGbFBGbFBGbFBGbFBGbFBGbFBGbFBGbFBGbFBGbFBGbFBGb",
   "FBGbFBGbFBGbFBGbFBGbFBGbFBGbFBGbFBGbFBGbFBGbFBGbFBGbFBGbFBGbFBGbFBGbFBGbFBGbFBGbFBGbFBGbFBGb",
   "FBGbFBGbFBGbFBGbFBGbFBGbFBGbFBGbFBGbFBGbFBGbFBGbFBGbFBGbFBGbFBGbFBGbFBGbFBGbFBGbFBGbFBGbFBGb",
   "FBGbFBGbFBGbFBGbFBGbFBGbFBGbFBGbFBGbFBGbFBGbFBGbFBGbFBGbFBGbFBGbFBGbFBGbFBGbFBGbFBGbFBGbFBGb",
   "FBGbFBGbFBGbFBGbFBGbFBGbFBGbFBGbFBGbFBGbFBGbFBGbFBGbFBGbFBGbFBGbFBGbFBGbFBGbFBGbFBGbFBGbFBGb",
   "FBGbFBGbFBGbFBGbFBGbFBGbFBGbFBGbFBGbFBGbFBGbFBGbFBGbFBGbFBGbFBGbFBGbFBGbFBGbFBGbFBGbFBGbFBGb",
   "FBGbFBGbFBGbFBGbFBGbFBGbFBGbFBGbFBGbFBGbFBGbFBGbFBGbFBGbFBGbFBGbFBGbFBGbFBGbFBGbFBGbFBGbFBGb",
   "FBGbFBGbFBGbFBGbFBGbFBGbFBGbFBGbFBGbFBGbFBGbFBGbFBGbFBGbFBGbFBGbFBGbFBGbFBGbFBGbFBGbFBGbFBGb",
   "FBGbFBGbFBGbFBGbFBGbFBGbFBGbFBGbFBGbFBGbFBGbFBGbFBGbFBGbFBGbFBGbFBGbFBGbFBGbFBGbFBGbFBGbFBGb",
   "FBGbFBGbFBGbFBGbFBGbFBGbFBGbFBGbFBGbFBGbFBGbFBGbFBGbFBGbFBGbFBGbFBGbFBGbFBGbFBGbFBGbFBGbFBGb",
   "FBGbFBGbFBGbFBGbFBGbFBGbFBGbFBGbFBGbFBGbFBGbFBGbFBGbFBGbFBGbFBGbFBGbFBGbFBGbFBGbjDMLXjDEKhRj",
   "Do5CCBjD3BCQjDQCQjDmPABjDkeCCjDiQAMjDwBCBjDnCCBjDkVCFjDh0GCDjDBCCjDFCEjDhICDjDECBjDlFCCjDxdC",
   "EjDiBCFjDpdCCjDiPCEjDiGCLjDhRCEjDjaJBCBJBjDhVCPjDhJCBjDCCCjDKCDJBjDhNJDCEJCCCjDCHBjDECBjDKHB",
   "jDhSCDjDhECFJBCIjDQJCjDhMCBjDMCCJBjDhQJDCJJBCBjDBHCjDFCEjDBJBCBjDicJDCDJCCEjDGCBjDCCBjDkdCBJ",
   "DCIjDVCCJCjDhXCCjDBCBJBCBJEjDCJCjDCJCCBjDJCBjDKJCjDCCHjDDCFjDiDCBJCCGjDBCBjDCCBjDBCDJBjDBJCC",
   "DHBCBjDOCCjDiSJDCIJCCDJBCBjDXCBjDiRCBJCCGJBCBJCCBJBCCJBCCjDnLCBJCCEjDCJECCJBCCjDbCCjDiSJDCIJ",
   "CCBJBCCjDjKCBJBCBJCCIjDjFCBJBCBjDCCEJBCFjDoAJDCJJBCCjDnVCBJFjDBJCjDCCEHBJBHBJBCBjDkNJDCEjDCC",
   "CJECBjDDJBjDcCKjDhICGJBHBCEjDICBjDJCGJCCDjDhIHGCNJBCCjDsVJBCHjDBCGJBCBjDiSCWjDBJBCHJBCCJBCCj",
   "DjaCGjDDCBjDBCCjDBCHHBCBjDiCJFjDBCCjDBJCCBJBCBjDqbCCJCjDJCCHBJBjDhQJCCFjDDJCCDjDXCBjDlmVAQCB",
   "jDGCPjDrmICMJDCDjDiuACFjDhbCHjDxMLBjDDLEjDvECBjDBJhXjDHCEjDiRCBjDLCCjDzlLCCjDBAEjDkycChOjDCC",
   "XjDweCFjDDCGAICIjDCCHjDeCEjDkUCDjDh9bChXjDEChSjDICBjDOCBjDWCFjDBCPjDhqQCHjDBCRjDCCHjDBCCjDBC",
   "FjDjECBjDlACHjDrXCBjDhdCEjDvcCEjDneCCjD3ACHjDjNCHjDikbIajDvbCFjD4jgAAhACjAAkACnQAjwQjD"]

/-- Word breaks: the names of each class; a class that cannot be asked for has none. -/
def wordBreakNames : List (List String) := [
  ["aletter", "le"], ["cr"], ["doublequote", "dq"], ["ex", "extendnumlet"], ["extend"],
  ["fo", "format"], ["hebrewletter", "hl"], ["ka", "katakana"], ["lf"], ["mb", "midnumlet"],
  ["midletter", "ml"], ["midnum", "mn"], ["newline", "nl"], ["nu", "numeric"],
  ["regionalindicator", "ri"], ["singlequote", "sq"], ["wsegspace"], ["zwj"]]

def wordBreak : ValueTable := .decode
  ["KIBMCBBjDSQBjDBCBjDEPBjDELBjDBJBjDBNKKBLBjDFAajDEDBjDBAajDKMBjDhEABjDCFBjDHABjDBKBjDCABjDFAX",
   "jDBAfjDBAvAjDGAhCEjQAFjDBACjDCAELBABjDGABKBADjDBABjDBAUjDBAiTjDBAkLjDBEHAlGjDBAhGjDCAEjDBABK",
   "BAhJLBABjDGEhNjDBEBjDBECjDBECjDBEBjDIGbjDEGEABKBjDLNGjDGLCjDCELjDBFBjDDAhLEVNKjDBNBLBjDBACEB",
   "AjDjDBABEHNBjDBEGACECjDBEEACNKADjDCABjDPACEBAeEbjDCAiZELABjDONKAhBEJACjDCLBjDBABjDCEBjDCAWEE",
   "ABEJABEDABEFjDSAZEDjDEALjDFAYjDBAGjDBNCjDFEJAhKEYNBEhBAhWEDABESABEHAKECjDCNKjDBAQEDjDBAIjDCA",
   "CjDCAWjDBAHjDBABjDDAEjDCEBABEHjDCECjDCEDABjDIEBjDEACjDBADECjDCNKACjDKABjDBEBjDCEDjDBAGjDEACj",
   "DCAWjDBAHjDBACjDBACjDBACjDCEBjDBEFjDEECjDCEDjDDEBjDHAEjDBABjDHNKECADEBjDLEDjDBAJjDBADjDBAWjD",
   "BAHjDBACjDBAFjDCEBABEIjDBEDjDBEDjDCABjDPACECjDCNKjDJABEGjDBEDjDBAIjDCACjDCAWjDBAHjDBACjDBAFj",
   "DCEBABEHjDCECjDCEDjDHEDjDEACjDBADECjDCNKjDBABjDQEBABjDBAGjDDADjDBAEjDDACjDBABjDBACjDDACjDDAD",
   "jDDAMjDEEFjDDEDjDBEEjDCABjDGEBjDONKjDQEFAIjDBADjDBAXjDBAQjDCEBABEHjDBEDjDBEEjDHECjDBADjDCABj",
   "DCACECjDCNKjDQABEDjDBAIjDBADjDBAXjDBAKjDBAFjDCEBABEHjDBEDjDBEEjDHECjDGACjDBACECjDCNKjDBACEBj",
   "DMEEAJjDBADjDBAhJECABEHjDBEDjDBEEABjDFADEBjDHADECjDCNKjDKAGjDBEDjDBASjDDAYjDBAJjDBABjDCAHjDD",
   "EBjDEEGjDBEBjDBEIjDGNKjDCECjDhdEBjDCEHjDMEIjDBNKjDiXEBjDCEJjDLEHjDBNKjDhGABjDXECjDGNKjDLEBjD",
   "BEBjDBEBjDEECAIjDBAhEjDEEUjDBECAFELjDBEhEjDJEBjDjEEUjDBNKjDMEEjDEEDjDBEDjDCEHjDDEEjDNEMjDBEB",
   "NKEEjDCAhGjDBABjDFABjDCAhLjDBAqNjDBAEjDCAHjDBABjDBAEjDCAhJjDBAEjDCAhBjDBAEjDCAHjDBABjDBAEjDC",
   "APjDBAhZjDBAEjDCAiDjDCEDjDhAAQjDQAiWjDCAGjDDAzMjDCARQBAajDFAiLjDDALjDHASEEjDJATEDjDLASECjDMA",
   "NjDBADjDBECjDiAEhAjDJEBjDCNKjDhBEDFBEBNKjDGAiZjDHAFECAhCEBABjDFAiGjDKAfjDBEMjDEEMjDKNKjDkANL",
   "jDhFAXEFjDhZEKjDBEdjDCEBNKjDGNKjDWEfjDhREFAhPERAIjDDNKjDREJjDMEDAeENACNKAhMEOjDMAhEEUjDINKjD",
   "DADNKAhEjDCALjDFAhLjDCADjDQEDjDBEVAEEBAGEBACEDABjDFAmAEiAAoWjDCAGjDCAhGjDCAGjDCAIjDBABjDBABj",
   "DBABjDBAfjDCAhVjDBAHjDBABjDDADjDBAHjDDAEjDCAGjDEANjDFADjDBAHjDDQHjDBQDjDBEBRBFCjDIJCjDKJBjDC",
   "KBMCFFDBjDPDCjDDLBjDPDBjDKQBFFjDBFKjDBABjDNABjDQANjDhTEhBjDRABjDEABjDCAKjDBABjDDAFjDGABjDBAB",
   "jDBABjDBAEjDBALjDCAEjDFAFjDEABjDRAhJjD5NAhUjDh4WAnFjDGAEEDACjDMAhGjDBABjDFABjDCAhYjDHABjDPEB",
   "AXjDJAHjDBAHjDBAHjDBAHjDBAHjDBAHjDBAHjDBAHjDBEhAjDhPABjDuQQBjDEABjDhEEGjDBHFjDFACjDicECHCjDD",
   "HibjDBHEjDFAhLjDBAiejDRAhAjDhQHQjDmQHhPjDBHiYjD7lIAhkNjDiDAhOjDCAoNjDDAQNKACjDUAhPEEjDBEKjDB",
   "AfECAiQECjDWAmGjDCACjDBABjDBAIjDVAQEBADEBAEEBAXEFjDEEBjDTAhUjDMECAhSESjDKNKjDGESAGjDDABjDBAC",
   "EBNKAcEIjDCAXENjDMAdjDDEEAhPEOjDOABNKjDLEBjDKNKjDGAhJEOjDJADEBAIECjDCNKjDhBEDjDhSEBjDBEDjDCE",
   "CjDFECjDBEBjDeALEFjDCADECjDKAGjDCAGjDCAGjDJAHjDBAHjDBAhajDGAjTEIjDBECjDCNKjDGAq9EjDMAXjDEAhR",
   "jDo4EAHjDMAFjDFGBEBGKjDBGNjDBGFjDBGBjDBGCjDBGCjDBGKAjCjDhBArLjDSAiAjDCAhWjDhIAMjDEEQjDDKBjDM",
   "EQjDDDCjDYDDLBjDBJBjDBLBKBjDaAFjDBAkHjDCFBjDHJBjDELBjDBJBjDBNKKBLBjDFAajDEDBjDBAajDLHhYECAfj",
   "DDAGjDCAGjDCAGjDCADjDcFDjDEAMjDBAajDBATjDBACjDBAPjDCAOjDhCAjbjDiFAhVjDkIEBjDkCAdjDDAhRjDPEBj",
   "DfAhAjDNAejDFAhGEFjDFAejDCAhEjDEAIjDBAFjDhKAkejDCNKjDGAhEjDEAhEjDEAhIjDIAhUjDMALjDBAPjDBAHjD",
   "BACjDBALjDBAPjDBAHjDBACjDDAhUjDMApXjDJAWjDKAIjDYAGjDBAhKjDBAJjDiFAGjDCABjDBAhMjDBACjDDABjDCA",
   "XjDKAXjDJAfjDiBATjDBACjDKAWjDKAajDiGAhYjDGACjDiAABEDjDBECjDFEEAEjDBADjDBAdjDCEDjDEEBjDhAAdjD",
   "DAdjDhDAIjDBAcECjDZAhWjDKAWjDKATjDNASjDjOAiJjDhXAhTjDNAhTjDNAhEEEjDINKjDGNKAcjDDEFjDBAXjDnaA",
   "hKjDBECjDDACjDQADjDhXEEAdjDKABjDIAWELjDfASEEjDhKAVjDbAXjDJEDAhVEPjDfNKEBACECABjDJEEAhNELjDCN",
   "BjDEEBjDKNBjDCAZjDHNKjDGEDAhEEOjDBNKjDEABECABjDIAhDEBjDCABjDJEDAhQEOAEjDEEEjDBECNKABjDBABjDh",
   "DASjDBAZEMjDGEBACEBjDheAHjDBABjDBAEjDBAPjDBAKjDHAhPEMjDFNKjDGEEjDBAIjDCACjDCAWjDBAHjDBACjDBA",
   "FjDBECABEHjDCECjDCEDjDCABjDGEBjDFAFECjDCEHjDDEFjDLAKjDBABjDCABjDBAhGjDBABEJjDBEBjDCEBjDBEEjD",
   "BEFABEBABjDNECjDdAhVESAEjDFNKjDEEBADjDeAhQEUACjDBABjDINKjDlGAhPEHjDCEJjDXAEECjDhCAhQERjDDABj",
   "DLNKjDhGAhLENABjDHNKjDGNUjDhZEPjDENKjDmGAhMEPjDjFAiANKjDVAIjDCABjDCAIjDBACjDBAYEGjDBECjDCEEA",
   "BEBABECjDMNKjDiGAIjDCAhHEHjDCEHABjDBABEBjDbABEKAhIEHABEEjDIEBjDIABELAhOEQjDDABjDSAiJjDmHAhBj",
   "DPNKjDGAJjDBAhFEIjDBEIABjDPNKjDYAejDCEWjDBEOjDiJAHjDBACjDBAhGEGjDDEBjDBECjDBEHABEBjDINKjDGAG",
   "jDBACjDBAhAEFjDBECjDBEFABjDHNKjDpWATEEjDJECABEBANjDBAhCEHjDDEFjDNNKEBjDiVABjDiPA8ajDjGAjPjDR",
   "AmEjDiyMAjBjDPAhhQFQEBAGEPjDKAj8bjDFAyHjDm1ZAeESNKjDh2GAxZjDHAfjDBNKjDGAiPjDBNKjDGAejDCEFjDL",
   "AhQEHjDJAEjDMNKjDJAVjDFATjDtQAhNjDDNKjDmGAiAjDkAAiLjDEEBABEhXjDHEEANjDiAACjDBABEBjDLECjDv-eH",
   "EjDBHHjDBHCjDBHBjDofHDjDhSHBjDOHEjDi0YAjLjDFANjDDAJjDHAKjDDECjDBFEjDkiMNKjDwGEhOjDCEXjDweEFj",
   "DDEGFIEIjDCEHjDeEEjDkUEDjDtbAiVjDBAiHjDBACjDCABjDCACjDCAEjDBAMjDBABjDBAHjDBAiBjDBAEjDCAIjDBA",
   "HjDBAcjDBAEjDBAFjDBABjDDAHjDBAqUjDCAZjDBAZjDBAfjDBAZjDBAfjDBAZjDBAfjDBAZjDBAfjDBAZjDBAIjDCNh",
   "SjDwAEhXjDEEhSjDIEBjDOEBjDWEFjDBEPjDhiQAfjDGAGjDmVEHjDBERjDCEHjDBECjDBEFjDFAhejDhBEBjDjQAhNj",
   "DDEHAHjDCNKjDEABjDqBAeEBjDRAhMEENKjDuWAcEENKjDmWAeECABNKjDvFAHjDBAEjDBACjDBAPjDBAmFjDLEHjDhJ",
   "AiEEHABjDENKjDhlGAEjDBAbjDBACjDBABjDCABjDBAKjDBAEjDBABjDBABjDGABjDEABjDBABjDBABjDBADjDBACjDB",
   "ABjDCABjDBABjDBABjDBABjDBABjDBACjDBABjDCAEjDBAHjDBAEjDBAEjDBABjDBAKjDBARjDFADjDBAFjDBARjDzUA",
   "ajDGAajDGAajDicOajDvbEFjDh-QNKjD4hgHFBjDeEjAjDkAEnQjD"]

/-- Sentence breaks: the names of each class; a class that cannot be asked for has none. -/
def sentenceBreakNames : List (List String) := [
  ["at", "aterm"], ["cl", "close"], ["cr"], ["ex", "extend"], ["fo", "format"],
  ["le", "oletter"], ["lf"], ["lo", "lower"], ["nu", "numeric"], ["sc", "scontinue"],
  ["se", "sep"], ["sp"], ["st", "sterm"], ["up", "upper"]]

def sentenceBreak : ValueTable := .decode
  ["JLBGBLCCBjDSLBMBBBjDEBDjDCJCABjDBIKJCjDDMBjDBNaBBjDBBBjDDHaBBjDBBBjDHKBjDaLBjDJHBBBjDBEBjDHH",
   "BjDEHBBBjDENXjDBNHHYjDBHINBHBNBHBNBHBNBHBNBHBNBHBNBHBNBHBNBHBNBHBNBHBNBHBNBHBNBHBNBHBNBHBNBH",
   "BNBHBNBHBNBHBNBHBNBHBNBHBNBHBNBHBNBHBNBHBNBHCNBHBNBHBNBHBNBHBNBHBNBHBNBHBNBHCNBHBNBHBNBHBNBH",
   "BNBHBNBHBNBHBNBHBNBHBNBHBNBHBNBHBNBHBNBHBNBHBNBHBNBHBNBHBNBHBNBHBNBHBNBHBNBHBNCHBNBHBNBHDNCH",
   "BNBHBNCHBNDHCNEHBNCHBNDHDNCHBNCHBNBHBNBHBNCHBNBHCNBHBNCHBNDHBNBHBNCHCFBNBHDFENCHBNCHBNCHBNBH",
   "BNBHBNBHBNBHBNBHBNBHBNBHBNBHCNBHBNBHBNBHBNBHBNBHBNBHBNBHBNBHBNBHCNCHBNBHBNDHBNBHBNBHBNBHBNBH",
   "BNBHBNBHBNBHBNBHBNBHBNBHBNBHBNBHBNBHBNBHBNBHBNBHBNBHBNBHBNBHBNBHBNBHBNBHBNBHBNBHBNBHBNBHBNBH",
   "BNBHBNBHHNCHBNCHCNBHBNEHBNBHBNBHBNBHBNBHiFFBHhEFHHCjDEFMjDOHFjDHFBjDBFBjDRDjQNBHBNBHBFBjDBNB",
   "HBjDCHEJBNBjDGNBjDBNDjDBNBjDBNCHBNRjDBNJHhDNBHCNDHDNBHBNBHBNBHBNBHBNBHBNBHBNBHBNBHBNBHBNBHBN",
   "BHBNBHFNBHBjDBNBHBNCHCNhTHhQNBHBNBHBNBHBNBHBNBHBNBHBNBHBNBHBNBHBNBHBNBHBNBHBNBHBNBHBNBHBNBHB",
   "NBHBjDBDHNBHBNBHBNBHBNBHBNBHBNBHBNBHBNBHBNBHBNBHBNBHBNBHBNBHBNBHBNBHBNBHBNBHBNBHBNBHBNBHBNBH",
   "BNBHBNBHBNBHBNBHBNBHBNBHBNCHBNBHBNBHBNBHBNBHBNBHBNBHCNBHBNBHBNBHBNBHBNBHBNBHBNBHBNBHBNBHBNBH",
   "BNBHBNBHBNBHBNBHBNBHBNBHBNBHBNBHBNBHBNBHBNBHBNBHBNBHBNBHBNBHBNBHBNBHBNBHBNBHBNBHBNBHBNBHBNBH",
   "BNBHBNBHBNBHBNBHBNBHBNBHBNBHBNBHBNBHBNBHBNBHBNBHBNBHBNBHBNBHBjDBNhGjDCFBjDDJBjDCHhJMBjDHDhNj",
   "DBDBjDBDCjDBDCjDBDBjDIFbjDEFFjDMIGjDGJCjDCDLjDBEBMDFhLDVIKjDBICjDBFCDBFjDMBFBDHIBjDBDGFCDCjD",
   "BDEFCIKFDjDCFBMDjDMEBFBDBFeDbjDCFiZDLFBjDOIKFhBDJFCjDCJBMBFBjDCDBjDCFWDEFBDJFBDDFBDFjDJMBjDB",
   "MBjDDMCjDBFZDDjDEFLjDFFYjDBFGjDBICjDFDJFhKDYIBDhBFhWDDFBDSFBDHFKDCMCIKjDBFQDDjDBFIjDCFCjDCFW",
   "jDBFHjDBFBjDDFEjDCDBFBDHjDCDCjDCDDFBjDIDBjDEFCjDBFDDCjDCIKFCjDKFBjDBDBjDCDDjDBFGjDEFCjDCFWjD",
   "BFHjDBFCjDBFCjDBFCjDCDBjDBDFjDEDCjDCDDjDDDBjDHFEjDBFBjDHIKDCFDDBjDLDDjDBFJjDBFDjDBFWjDBFHjDB",
   "FCjDBFFjDCDBFBDIjDBDDjDBDDjDCFBjDPFCDCjDCIKjDJFBDGjDBDDjDBFIjDCFCjDCFWjDBFHjDBFCjDBFFjDCDBFB",
   "DHjDCDCjDCDDjDHDDjDEFCjDBFDDCjDCIKjDBFBjDQDBFBjDBFGjDDFDjDBFEjDDFCjDBFBjDBFCjDDFCjDDFDjDDFMj",
   "DEDFjDDDDjDBDEjDCFBjDGDBjDOIKjDQDFFIjDBFDjDBFXjDBFQjDCDBFBDHjDBDDjDBDEjDHDCjDBFDjDCFBjDCFCDC",
   "jDCIKjDQFBDDjDBFIjDBFDjDBFXjDBFKjDBFFjDCDBFBDHjDBDDjDBDEjDHDCjDGFCjDBFCDCjDCIKjDBFCDBjDMDEFJ",
   "jDBFDjDBFhJDCFBDHjDBDDjDBDEFBjDFFDDBjDHFDDCjDCIKjDKFGjDBDDjDBFSjDDFYjDBFJjDBFBjDCFHjDDDBjDED",
   "GjDBDBjDBDIjDGIKjDCDCjDNFhQDBFCDHjDFFHDIjDBIKjDhHFCjDBFBjDBFFjDBFYjDBFBjDBFKDBFCDJFBjDCFFjDB",
   "FBjDBDHjDBIKjDCFEjDhAFBjDXDCjDGIKjDLDBjDBDBjDBDBBEDCFIjDBFhEjDEDUjDBDCFFDLjDBDhEjDJDBjDhZFhL",
   "DUFBIKMCjDEFGDEFEDDFBDDFCDHFDDEFNDMFBDBIKDEjDCNhGjDBNBjDFNBjDCFhLjDBHBFqMjDBFEjDCFHjDBFBjDBF",
   "EjDCFhJjDBFEjDCFhBjDBFEjDCFHjDBFBjDBFEjDCFPjDBFhZjDBFEjDCFiDjDCDDjDCMBjDEMCjDXFQjDQNiWjDCHGj",
   "DDFzMjDBMBFRLBFaBCjDDFiLjDDFLjDHFSDEjDJFTDDMCjDJFSDCjDMFNjDBFDjDBDCjDMFhUDhAMCjDBFBjDEFBDBjD",
   "CIKjDYJBMBjDEJBMBjDBDDEBDBIKjDGFiZjDHFFDCFhCDBFBjDFFiGjDKFfjDBDMjDEDMjDIMCIKFejDCFFjDLFhMjDE",
   "FajDGILjDhFFXDFjDEFhVDKjDBDdjDCDBIKjDGIKjDNFBMEjDEDfjDhRDFFhPDRFIjDBMCIKMCjDCMCjDLDJjDJMDDDF",
   "eDNFCIKFhMDOjDMFhEDUjDDMCjDDIKjDDFDIKFhEMCHJNBHBjDFFhLjDCFDjDQDDjDBDVFEDBFGDBFCDDFBjDFHmADiA",
   "NBHBNBHBNBHBNBHBNBHBNBHBNBHBNBHBNBHBNBHBNBHBNBHBNBHBNBHBNBHBNBHBNBHBNBHBNBHBNBHBNBHBNBHBNBHB",
   "NBHBNBHBNBHBNBHBNBHBNBHBNBHBNBHBNBHBNBHBNBHBNBHBNBHBNBHBNBHBNBHBNBHBNBHBNBHBNBHBNBHBNBHBNBHB",
   "NBHBNBHBNBHBNBHBNBHBNBHBNBHBNBHBNBHBNBHBNBHBNBHBNBHBNBHBNBHBNBHBNBHBNBHBNBHBNBHBNBHBNBHBNBHB",
   "NBHBNBHBNBHBNBHBNBHBNBHJNBHBNBHBNBHBNBHBNBHBNBHBNBHBNBHBNBHBNBHBNBHBNBHBNBHBNBHBNBHBNBHBNBHB",
   "NBHBNBHBNBHBNBHBNBHBNBHBNBHBNBHBNBHBNBHBNBHBNBHBNBHBNBHBNBHBNBHBNBHBNBHBNBHBNBHBNBHBNBHBNBHB",
   "NBHBNBHBNBHBNBHBNBHBNBHBNBHBNBHBNBHJNIHGjDCNGjDCHINIHINIHGjDCNGjDCHIjDBNBjDBNBjDBNBjDBNBHINI",
   "HOjDCHINIHINIHINIHFjDBHCNFjDBHBjDDHDjDBHCNFjDDHEjDCHCNEjDEHINFjDFHDjDBHCNFjDDLLEBDCECjDDJCjD",
   "DBIjDEABjDDKCEFLBjDJBCjDBMCjDHBCMDjDVLBEFjDBEKjDBHBjDLBCHBjDNBCjDBHNjDhTDhBjDRNBjDENBjDCHBND",
   "HCNDHBjDBNBjDDNFjDGNBjDBNBjDBNBjDBNEjDBHBNEHBFEHBjDCHCNCjDFNBHEjDEHBjDRNQHQFDNBHBFEjDrfBEjDd",
   "BCjDsLNaHajDzRBGjDHBOjDiPBCjDfBKjDsTBWjDhfBEjDhABCjDwCNhQHhQNBHBNDHCNBHBNBHBNBHBNEHBNBHCNBHI",
   "NDHBNBHBNBHBNBHBNBHBNBHBNBHBNBHBNBHBNBHBNBHBNBHBNBHBNBHBNBHBNBHBNBHBNBHBNBHBNBHBNBHBNBHBNBHB",
   "NBHBNBHBNBHBNBHBNBHBNBHBNBHBNBHBNBHBNBHBNBHBNBHBNBHBNBHBNBHBNBHBNBHBNBHBNBHBNBHBNBHBNBHBNBHB",
   "NBHBNBHBNBHBNBHCjDGNBHBNBHBDDNBHBjDFMDjDEHhGjDBHBjDFHBjDCFhYjDHFBjDPDBFXjDJFHjDBFHjDBFHjDBFH",
   "jDBFHjDBFHjDBFHjDBFHjDBDhABOjDOBCjDCBKjDEMBFBjDMMBjDFBBjDQMCBIjDtDLBJBMBjDCFDBKjDCBIjDBBDjDB",
   "FJDGjDBFFjDCFFjDEFiWjDCDCjDCFDjDBFiajDBFEjDFFhLjDBFiejDRFhAjDhQFQjDwAFmuAjDiAF10NjDiDFhOjDBM",
   "BFoNjDBMCFQIKFCjDUNBHBNBHBNBHBNBHBNBHBNBHBNBHBNBHBNBHBNBHBNBHBNBHBNBHBNBHBNBHBNBHBNBHBNBHBNB",
   "HBNBHBNBHBNBHBNBHBFBDEjDBDKjDBFBNBHBNBHBNBHBNBHBNBHBNBHBNBHBNBHBNBHBNBHBNBHBNBHBNBHBNBHDDCFi",
   "QDCjDBMBjDDMBjDfFJjDCNBHBNBHBNBHBNBHBNBHBNBHBNBHDNBHBNBHBNBHBNBHBNBHBNBHBNBHBNBHBNBHBNBHBNBH",
   "BNBHBNBHBNBHBNBHBNBHBNBHBNBHBNBHBNBHBNBHBNBHBNBHBNBHBNBHBNBHBNBHBNBHBNBHBNBHBNBHKNBHBNBHBNCH",
   "BNBHBNBHBNBHBNBHBFBjDCNBHBNBHBFBNBHBNBHDNBHBNBHBNBHBNBHBNBHBNBHBNBHBNBHBNBHBNBHBNFHBNFHBNBHB",
   "NBHBNBHBNBHBNBHBNBHBNBHBNEHBNBHBNCHBjDCNBHBjDBHBjDBHBNBHBNBHBNBHBNBjDVHDNBHBFBHDFHDBFDDBFEDB",
   "FXDFjDEDBjDTFhUjDCMCjDIDCFhSDSjDIMCIKjDGDSFGjDDFBjDBFCDBIKFcDIjDBMBFXDNjDMFdjDDDEFhPDOjDHMCj",
   "DFFBIKjDGFFDBFKIKFFjDBFhJDOjDJFDDBFIDCjDCIKjDDMDFXjDDFBDDFhSDBFBDDFCDCFFDCFBDBFBjDYFDjDCFLDF",
   "MCFDDCjDKFGjDCFGjDCFGjDJFHjDBFHjDBHhLjDBHOjDGHiQFhDDIMBDCjDCIKjDGFq9EjDMFXjDEFhRjDooEFrOjDCF",
   "jKjDhGHHjDMHFjDFFBDBFKjDBFNjDBFFjDBFBjDBFCjDBFCjDBFjMjDhBFrLBCjDQFiAjDCFhWjDhIFMjDEDQJCMBJCM",
   "CBCjDHDQjDBJCjDCBQjDCBCjDHJCABjDBJCMCJBBGjDEJBjDMFFjDBFkHjDCEBjDBMBjDGBCjDCJCABjDBIKJCjDDMBj",
   "DBNaBBjDBBBjDDHaBBjDBBBjDBBCMBBCJBjDBFhYDCFfjDDFGjDCFGjDCFGjDCFDjDcEDjDEFMjDBFajDBFTjDBFCjDB",
   "FPjDCFOjDhCFjbjDiFFhVjDkIDBjDkCFdjDDFhRjDPDBjDfFhAjDNFejDFFhGDFjDFFejDCFhEjDEFIjDBFFjDhKNhIH",
   "hIFiOjDCIKjDGNhEjDEHhEjDEFhIjDIFhUjDMNLjDBNPjDBNHjDBNCjDBHLjDBHPjDBHHjDBHCjDDFhUjDMFpXjDJFWj",
   "DKFIjDYHBFCHDjDBHhKjDBHJjDiFFGjDCFBjDBFhMjDBFCjDDFBjDCFXjDKFXjDJFfjDiBFTjDBFCjDKFWjDKFajDiGF",
   "hYjDGFCjDiAFBDDjDBDCjDFDEFEjDBFDjDBFdjDCDDjDEDBjDWMCjDIFdjDDFdjDhDFIjDBFcDCjDZFhWjDKFWjDKFTj",
   "DNFSjDjOFiJjDhXNhTjDNHhTjDNFhEDEjDIIKjDGIKFGNWjDDDFjDBFBHWjDnaFhKjDBDCjDDFCjDQFDjDhXDEFdjDKF",
   "BjDIFWDLjDEMFjDWFSDEMEjDhGFVjDbFXjDJDDFhVDPMCjDdIKDBFCDCFBjDJDEFhNDLjDCIBMEDBjDKIBjDCFZjDHIK",
   "jDGDDFhEDOjDBIKjDBMDFBDCFBjDIFhDDBjDCFBjDJDDFhQDOFEMCjDCDEMBDCIKFBjDBFBjDBMCjDhAFSjDBFZDMMCj",
   "DBMCjDBDBFCDBjDheFHjDBFBjDBFEjDBFPjDBFKMBjDGFhPDMjDFIKjDGDEjDBFIjDCFCjDCFWjDBFHjDBFCjDBFFjDB",
   "DCFBDHjDCDCjDCDDjDCFBjDGDBjDFFFDCjDCDHjDDDFjDLFKjDBFBjDCFBjDBFhGjDBFBDJjDBDBjDCDBjDBDEjDBDFF",
   "BDBFBMCjDLDCjDdFhVDSFEMCjDDIKjDEDBFDjDeFhQDUFCjDBFBjDIIKjDlGFhPDHjDCDJjDBMCjDFMPFEDCjDhCFhQD",
   "RMCjDBFBjDLIKjDhGFhLDNFBjDHIKjDGIUjDcFbjDCDPjDEIKjDCMDjDBFHjDlZFhMDPjDjFNhAHhAIKjDVFIjDCFBjD",
   "CFIjDBFCjDBFYDGjDBDCjDCDEFBDBFBDCMBjDBMBjDJIKjDiGFIjDCFhHDHjDCDHFBjDBFBDBjDbFBDKFhIDHFBDEjDD",
   "MCjDDDBjDIFBDLFhODQjDBMCFBjDSFiJjDmHFhBjDPIKjDGFJjDBFhFDIjDBDIFBMCjDNIKjDYFejDCDWjDBDOjDiJFH",
   "jDBFCjDBFhGDGjDDDBjDBDCjDBDHFBDBjDIIKjDGFGjDBFCjDBFhADFjDBDCjDBDFFBjDHIKjDpWFTDEMCjDHDCFBDBF",
   "NjDBFhCDHjDDDFMCjDLIKDBjDiVFBjDiPF8ajDjGFjPjDRFmEjDiyMFjBjDPFhhQEQDBFGDPjDKFj8bjDFFyHjDm1ZFe",
   "DSIKjDh2GFxZjDHFfjDBIKjDEMCFiPjDBIKjDGFejDCDFMBjDKFhQDHMCjDHFEMBjDLIKjDJFVjDFFTjDtQFhNjDBMCI",
   "KjDmGNhAHhAjDYMBjDjHFiLjDEDBFBDhXjDHDEFNjDiAFCjDBFBDBjDLDCjDOFl-YjDIFhmWjDhJFKjDo3HFEjDBFHjD",
   "BFCjDBFpDjDPFBjDdFDjDCFBjDOFEjDIFsMjDioEFjLjDFFNjDDFJjDHFKjDDDCMBEEjDkiMIKjDwGDhOjDCDXjDweDF",
   "jDDDGEIDIjDCDHjDeDEjDkUDDjDtbNaHaNaHHjDBHSNaHaNBjDBNCjDCNBjDCNCjDCNEjDBNIHEjDBHBjDBHHjDBHLNa",
   "HaNCjDBNEjDCNIjDBNHjDBHaNCjDBNEjDBNFjDBNBjDDNHjDBHaNaHaNaHaNaHaNaHaNaHaNaHcjDCNZjDBHZjDBHGNZ",
   "jDBHZjDBHGNZjDBHZjDBHGNZjDBHZjDBHGNZjDBHZjDBHGNBHBjDCIhSjDwADhXjDEDhSjDIDBjDODBjDDMBjDSDFjDB",
   "DPjDhiQHKFBHUjDGHGjDmVDHjDBDRjDCDHjDBDCjDBDFjDFHhejDhBDBjDjQFhNjDDDHFHjDCIKjDEFBjDqBFeDBjDRF",
   "hMDEIKjDuWFcDEIKjDmWFeDCFBIKjDvFFHjDBFEjDBFCjDBFPjDBFmFjDLDHjDhJNhCHhCDHFBjDEIKjDhlGFEjDBFbj",
   "DBFCjDBFBjDCFBjDBFKjDBFEjDBFBjDBFBjDGFBjDEFBjDBFBjDBFBjDBFDjDBFCjDBFBjDCFBjDBFBjDBFBjDBFBjDB",
   "FBjDBFCjDBFBjDCFEjDBFHjDBFEjDBFEjDBFBjDBFKjDBFRjDFFDjDBFFjDBFRjDzUNajDGNajDGNajDhnMBDjDhrXIK",
   "jDhgGFhp3AjDhAFkhajDGFmejDCFl0CjDOFnpRjDPFzOjDitCFwejDhvCFk6LjDFFkjAjD13iREBjDeDjAjDkADnQjD"]

/-- The versions of the standard, oldest first. -/
def ageNames : List (List String) := [
  ["1.1", "v11"], ["2.0", "v20"], ["2.1", "v21"], ["3.0", "v30"], ["3.1", "v31"], ["3.2", "v32"],
  ["4.0", "v40"], ["4.1", "v41"], ["5.0", "v50"], ["5.1", "v51"], ["5.2", "v52"], ["6.0", "v60"],
  ["6.1", "v61"], ["6.2", "v62"], ["6.3", "v63"], ["7.0", "v70"], ["8.0", "v80"], ["9.0", "v90"],
  ["10.0", "v100"], ["11.0", "v110"], ["12.0", "v120"], ["12.1", "v121"], ["13.0", "v130"],
  ["14.0", "v140"], ["15.0", "v150"], ["15.1", "v151"], ["16.0", "v160"]]

/-- The place of the version in `ageNames`; 99 for a code point that is not assigned. -/
def ages : ValueTable := .decode
  ["AAvWDEAeDIFBGBDSGDHLIOAiZDFGCAhPDBAKDFGRAiGDJFBGIHFGDACDBFNJEACJCjDCABIDABPBjDEAHjDBABjDBAUj",
   "DBAhMJBAHDBFCABDBABDBABDBABDBASECFBGFHEDBAMDBAiCDBAMDBAhJJBDCFCDEAhVFCACFCACFCIBAcDCAIHCACIG",
   "FQIEJQKCLCPIjDBAhGjDCAHTBAhHTBABDBjDCPCMBjDBBRHBBNAKIBAJBBHDjDIAbjDETBAFjDLGEMBPBJFHBABGJJFA",
   "BOBXBHBABLBAaJFATDDGDHGLBAOFCAiIDCAFDBAPDBAeGCAKDFGBDOjDBDeGDDbjDCGDHeJSDhRFBjDOIhbjDCTDKhOj",
   "DCKPjDBLcjDCLBjDBSLjDFXfjDBXCjDFaBXIMBPBMLPGQCXBRIWKXLTBRPQBMbPBKBADGBAhVLCASKBLBAFKBLCAZJCL",
   "FPBKCICHBICPBADjDBAIjDCACjDCAWjDBAHjDBABjDDAEjDCABGBAHjDCACjDCADHBjDIABjDEACjDBAFjDCAVKBSCTB",
   "jDCGBABGBjDBAGjDEACjDCAWjDBAHjDBACjDBACjDBACjDCABjDBAFjDEACjDCADjDDJBjDHAEjDBABjDHAPJBTBjDKA",
   "DjDBAHGBABjDBADjDBAWjDBAHjDBACjDBAFjDCAKjDBADjDBADjDCABjDPABGDjDCAKMBGBjDHQBSGjDBADjDBAIjDCA",
   "CjDCAWjDBAHjDBACjDBGBAEjDCAIJBjDCACjDCADjDHWBACjDEACjDBADJCjDCALGBLGjDKACjDBAGjDDADjDBAEjDDA",
   "CjDBABjDBACjDDACjDDADjDDAIHBADjDEAFjDDADjDBAEjDCJBjDGABjDOHBAMGIjDFPBADTBAIjDBADjDBAXjDBAKPB",
   "AFjDCXBJBAHjDBADjDBAEjDHACjDBJCQBjDCXBjDCACJCjDCAKjDHUBJIRBPBACTBAIjDBADjDBAXjDBAKjDBAFjDCGC",
   "AHjDBADjDBAEjDHACjDGXBABjDBACICjDCAKjDBICYBjDMSBPBACWBAIjDBADjDBAXLBAQLBSCJBAGJBjDBADjDBAELB",
   "RBjDERDABRHQBACJCjDCAKJGRDJHjDBWBDCjDBDSjDDDYjDBDJjDBDBjDCDHjDDDBjDEDGjDBDBjDBDIjDGPKjDCDDjD",
   "MAhajDEAdjDhFACjDBABjDBUBACUBABjDBUBABUGAEUBAHUBADjDBABjDBABUCACUBANUBADjDCAFjDBABjDBAGYBjDB",
   "AKjDCACMCjDhABiIjDBBhBDBJCjDEBbLEBGDBBBjDBBVDDBHDBBBDDjDBDPjDBJBDBHCJDKELCjDhFDhCJBDFJBDCJBD",
   "HJDDEJGDaJiAKEJCAhGjDBMBjDFMBjDCAhHFCHCABHBMDAiaKFAiEKFAiSKGDHHBDhfHBDBjDBDEjDCDHjDBDBjDBDEj",
   "DCDhHHBDBjDBDEjDCDfHBDBjDBDEjDCDHjDBDBjDBDEjDCDHHBDHjDBDXHBDfHBDBjDBDEjDCDHHBDhHHBDTjDCLCHCD",
   "cjDDHajDGDiVQBjDCQGjDCKBDzWKJDdjDDDiRPIjDHFNXBFHXBjDJXBFXjDJFUjDMFNjDBFDjDBFCjDMDidGBjDCDKjD",
   "GGKjDGDPXBDKjDGDiYTBjDHDhKJBjDFKiGjDKGdPCjDBGMjDEGMjDEGBjDDGhKjDCGFjDLHhKKCjDEHajDGHKKBjDDHC",
   "GhAHcjDCHCKhfjDBKdjDCKLjDGKKjDGKOjDCPPWCXOjDhRIiMXBjDBaCIhNXCaBJhLMDJMMGLhUjDILEJhYjDDJPjDDJ",
   "hTRJaCjDFThLjDCTDMIjDIKhDMESBPCUBjDFGjMHiYIHJcPPSEXBRBLBKBICAkbBBJEAiaJGAWjDCAGjDCAhGjDCAGjD",
   "CAIjDBABjDBABjDBABjDBAfjDCAhVjDBAPjDBAOjDCAGjDBATjDCADjDBAJjDBAhPDBAXFBDGFFGCHCFBHHFFJBjDBOE",
   "AHFBjDCAbjDBHFLIjDDALBBCBDDFCHEKDLBNBPDQBSBXBjDPASDCFHHBIEJBjDPAhZDCGBHBFPHBICJBKDAhQDBIBJEK",
   "BQCjDEAibDJFMAnSFOABDBAjZDBFBDeFhUGCHLIMKBLLPHRESBAhFDCaDjDWALjDVAkLFUGBAkWFKAiQDIFIAUGCFCHB",
   "DBAiWDCFMHCFKGIHLJBKCGCHQIBJKKDJEKKLBKTLBKBLEKYPBAELBAELCAcLBAhDLBABLBAELDABKBAHLCAHFOAfLDAY",
   "LBAOLBHHIEMBJBMBLCFcJEFQDoAFwAGOHGIHJFIEJhJPDJFKFPajDCPhAjDBWBPhCTDPMUBPISBTZQETPUBHhPXBHhPX",
   "BINJDKBJDIEJGKCHjLKHMCjDFHhNjDBMBjDFMBjDCHhWMCjDHHBLBjDOLBHXjDJHHjDBHHjDBHHjDBHHjDBHHjDBHHjD",
   "BHHjDBHHjDBJhAHYJEHCJTKBMKPHRCSFTFUBWDXLjDhCDajDBDiZjDMDmWjDaDMZEAhYDDFDDBABjDBAiUFCjDCAGFCA",
   "ieFBjDFAhIJBSBTBjDBAiejDBAQDYLDWFHQJUaCjDJZBFQAdGCjDBAhEKMGBFPAcGCHBAhSFPAMGEAhPVBAjXGEAjDGC",
   "AfGBDmtWWKGiAA0tGHWJIKIMBQJSVTFWNXDDhkNjDDDSFCDQFBDMFBDDFBDBjDJKhQJpMjDUJhALCJSMIJcPGQBMBKiY",
   "jDIHXIEJFICJjLLCQBLCMCPMLKMBPDRBTBPCQGTCUGXCUFWEaDjDCXCjDBXBjDBXFaDjDVXDWCPBMCLBJFHhMWBjDDKK",
   "jDGIhYjDIJiFRBjDIJMjDGKcQCTCJiUjDLJBKdjDDKiOjDBKLjDEKCPfjDBJhXjDJJOjDCJKjDCJEKcPEKiDjDYKFMXj",
   "DKLGjDCLGjDCLGjDJLHjDBLHjDBPhQQEPCUCWEjDEQiQKhOjDCKKjDGBq9EjDMKXjDEKhRjDigEAmxOMCFhbKDjDCHjK",
   "jDhGAHjDMAFjDFDBAZjDBAFjDBABjDBACjDBACjDBAjMLQXBjDQArNXQAiAjDCAhWjDHXBEhAAMFBGBXCFQHKjDGAEJD",
   "PHQCAVFCGCAKjDBATjDBAEjDEADFBABjDBAkHjDCABjDBAieFCAiejDDAGjDCAGjDCAGjDCADjDDAHjDBAHjDKDDCBAD",
   "GMjDBGajDBGTjDBGCjDBGPjDCGOjDhCGjbjDFGDjDEGhNjDDGJHiLPCRCjDBJMWBjDDPBjDhPJhOjDkCJdjDDJhRjDPP",
   "cjDEEfPBEEjDJSDEbjDFPhLjDFGejDBGBHhEjDEHOjDhKEhGGCEhGGiQjDCGKjDGRhEjDERhEjDEPhIjDIPhUjDLPBXL",
   "jDBXPjDBXHjDBXCjDBXLjDBXPjDBXHjDBXCjDDahUjDMPpXjDJPWjDKPIjDYXGjDBXhKjDBXJjDiFGGjDCGBjDBGhMjD",
   "BGCjDDGBjDCGBKWjDBKJPhfjDIPJjDhQQTjDBQCjDFQFIaKCjDDIBJajDFJBjDiAMhYjDEQCMCQQjDCQhOHEjDBHCjDF",
   "HIjDBHDjDBHbTCjDCHDjDEHJTBjDHHJjDHKhAPhAjDhAPhHjDEPMjDJKhWjDDKdjDCKbjDFKIPSjDHPEjDMPHjDiQKiJ",
   "jDhXQhTjDNQhTjDHQGThIjDITKjDGahGjDDadjDIaCjDmQKfjDBWhKjDBWDjDCWCjDQaDjDhXaBYDThIjDIThKjDWXaj",
   "DhGWcjDUUXjDJLiOjDELeXGjDJPBKiCXBjDKTBjDCMZjDHMKjDGMhVjDBMOTDWBjDIPhHjDJMiJQEPBWCMKPBQFjDBPU",
   "jDLPSjDBPhLRBYDjDheQHjDBQBjDBQEjDBQPjDBQLjDGPhbjDFPKjDGQBPDjDBPIjDCPCjDCPWjDBPHjDBPCjDBPFjDB",
   "TBPJjDCPCjDCPDjDCQBjDGPBjDFPHjDCPHjDDPFjDLaKjDBaBjDCaBjDBahGjDBaKjDBaBjDCaBjDBaEjDBaKjDBaCjD",
   "IaCjDdRiaWBRBjDBRBTBUBWCjDePiIjDIPKjDlGPhWjDCPSQUjDhCPiFjDLPKjDGRNjDTMhYUBXBjDGMKjDGaUjDcQaT",
   "BjDCQPjDEQQXHjDlZThcjDjEPiTjDMPBWHjDCWBjDCWIjDBWCjDBWejDBWCjDCWMjDJWKjDiGUIjDCUhOjDCULjDbSiI",
   "jDIShUUCSXTBSFjDNXQPhZjDHYKjDlWahCjDOaKjDGRJjDBRhNjDBROjDKRdjDDRhAjDCRWjDBROjDiJSHjDBSCjDBSh",
   "MjDDSBjDBSCjDBSJjDISKjDGTGjDBTCjDBThFjDBTCjDBTGjDHTKjDpWTZjDHYRjDBYhJjDDYcaBjDiVWBjDPUhSjDNU",
   "BI7PPhKQBjDjGIjDPMjDBIEPBjDLQmEjDiyMXjDjDNKhhPYBUJYdjDKaj8bjDFQyHjDm1ZahajDh2GLxZjDHPfjDBPKj",
   "DEPCXiPjDBXKjDGPejDCPGjDKPiGjDKPKjDBPHjDBPVjDFPTjDtQahajDmGTibjDjFMiFUGjDEUBMhPUJjDHMRjDiARB",
   "SBUCWBjDLWCjDORl-NTFUGjDIR3TWvDjDhJaBWJjDo3HXEjDBXHjDBXCjDBLCSodXEjDPYBjDdUDjDCYBjDOUEjDISsM",
   "jDioEPjLjDFPNjDDPJjDHPKjDCPIjDj6canajDGatUjDiMXhOjDCXXjDJXjUjDhcEnWjDKEhHjDCJBElUQLXCjDVHiGj",
   "DjaYUjDMTUjDMGiXjDJISTHjDkHEiVjDBEiHjDBECjDCEBjDCECjDCEEjDBEMjDBEBjDBEEGBECjDBEiBjDBEEjDCEIj",
   "DBEHjDBEcjDBEEjDBEFjDBEBjDDEHjDBEqSHCjDCEpCICjDCEhSQ0MjDPQFjDBQPjDhiQXfjDGYGjDmVRHjDBRRjDCRH",
   "jDBRCjDBRFjDFYhejDhBYBjDjQUhNjDDUOjDCUKjDEUCjDqAXfjDRUhajDFUBjDuQYhKjDmWahLjDEaBjDvAXHjDBXEj",
   "DBXCjDBXPjDBPmFjDCPQjDhJRiLUBjDERKjDERCjD4RTiEjDiMUhdjDmCMEjDBMbjDBMCjDBMBjDCMBjDBMKjDBMEjDB",
   "MBjDBMBjDGMBjDEMBjDBMBjDBMBjDBMDjDBMCjDBMBjDCMBjDBMBjDBMBjDBMBjDBMBjDBMCjDBMBjDCMEjDBMHjDBME",
   "jDBMEjDBMBjDBMKjDBMRjDFMDjDBMFjDBMRjDhUMCjDoOJhMjDEJjEjDMLPjDCLOPBjDBLPjDBLPPWjDKKLPCWDKfTBL",
   "BKBLLKBLBKBLCKBLDKBLDKFLIKBLHKBLKMCUBWDLJKBLBKCLCKBLKKELCKBLKRSWBjDhYLaKBLCjDNKhCLJRBjDEKJjD",
   "HLCjDOSGjDkaLhBPMQDLGPBLiGPBQCLUPMLhFPBLFPEQFPMLRPHQILhfPBLBPBLlWPBLEPCQBLhePCMEPHQFLYPSRBPh",
   "JRBPiWLFMBLQMBLDMBLBMBLBMBLBMBLDMBLGMCLEMBLBMCLEMBLMPCQCLLPhQLiGPKQBRCSCUBWCjDEYBXDPNjDDPERD",
   "SCTBUBWCjDDLjUYDjDEYFPiVTEYBjDGUMjDEXBjDPPMjDEPhYjDIPKjDGPhIjDIPejDCWCaKjDEaCjDheSMWBUDQJRGS",
   "BRISIRBSCRMUBRMSBTDRPSNTFUBWBTEWCXBTBUBTEQFRNSGTLWCUGWDUCTKUGQBTCUIWBXBUDSXTZUiUjDMTOjDCUEWB",
   "YDUDXCjDDUDWEYCaBjDFaBUGWTXEYDWHXEYDaBYBWDXDaBjDHYCWHXDYCaBjDCaBXIYBaBjDGXHYCjDHWkTjDBWhXahF",
   "WKjDhgEBCEhp2XWHXCjDhAKkhVXEYBjDGLmejDCQl0CjDOSnpRjDPZzOjDitCEwejDhvABCWk6LjDFYkjAjDh3iOBCjD",
   "h--eBCjDh--eBCjDh--eBCjDh--eBCjDh--eBCjDh--eBCjDh--eBCjDh--eBCjDh--eBCjDh--eBCjDBEBjDeEjAjDk",
   "AGnQjDh-wOB"]

end ElementRules.Pattern

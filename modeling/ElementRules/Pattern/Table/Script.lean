import ElementRules.Pattern.Table

/-!
The script of every code point and the set of scripts that use it, as runs of equal value.
-/

namespace ElementRules.Pattern

/-- The names of each script, without separators and in lower case; the place in the list is the
value in the tables. -/
def scriptNames : List (List String) := [
  ["adlm", "adlam"], ["aghb", "caucasianalbanian"], ["ahom"], ["arab", "arabic"],
  ["armi", "imperialaramaic"], ["armn", "armenian"], ["avst", "avestan"], ["bali", "balinese"],
  ["bamu", "bamum"], ["bass", "bassavah"], ["batk", "batak"], ["beng", "bengali"],
  ["bhks", "bhaiksuki"], ["bopo", "bopomofo"], ["brah", "brahmi"], ["brai", "braille"],
  ["bugi", "buginese"], ["buhd", "buhid"], ["cakm", "chakma"], ["cans", "canadianaboriginal"],
  ["cari", "carian"], ["cham"], ["cher", "cherokee"], ["chrs", "chorasmian"],
  ["copt", "coptic", "qaac"], ["cpmn", "cyprominoan"], ["cprt", "cypriot"],
  ["cyrl", "cyrillic"], ["deva", "devanagari"], ["diak", "divesakuru"], ["dogr", "dogra"],
  ["dsrt", "deseret"], ["dupl", "duployan"], ["egyp", "egyptianhieroglyphs"],
  ["elba", "elbasan"], ["elym", "elymaic"], ["ethi", "ethiopic"], ["gara", "garay"],
  ["geor", "georgian"], ["glag", "glagolitic"], ["gong", "gunjalagondi"],
  ["gonm", "masaramgondi"], ["goth", "gothic"], ["gran", "grantha"], ["grek", "greek"],
  ["gujr", "gujarati"], ["gukh", "gurungkhema"], ["guru", "gurmukhi"], ["hang", "hangul"],
  ["hani", "han"], ["hano", "hanunoo"], ["hatr", "hatran"], ["hebr", "hebrew"],
  ["hira", "hiragana"], ["hluw", "anatolianhieroglyphs"], ["hmng", "pahawhhmong"],
  ["hmnp", "nyiakengpuachuehmong"], ["hung", "oldhungarian"], ["ital", "olditalic"],
  ["java", "javanese"], ["kali", "kayahli"], ["kana", "katakana"], ["kawi"],
  ["khar", "kharoshthi"], ["khmr", "khmer"], ["khoj", "khojki"], ["kits", "khitansmallscript"],
  ["knda", "kannada"], ["krai", "kiratrai"], ["kthi", "kaithi"], ["lana", "taitham"],
  ["laoo", "lao"], ["latn", "latin"], ["lepc", "lepcha"], ["limb", "limbu"],
  ["lina", "lineara"], ["linb", "linearb"], ["lisu"], ["lyci", "lycian"], ["lydi", "lydian"],
  ["mahj", "mahajani"], ["maka", "makasar"], ["mand", "mandaic"], ["mani", "manichaean"],
  ["marc", "marchen"], ["medf", "medefaidrin"], ["mend", "mendekikakui"],
  ["merc", "meroiticcursive"], ["mero", "meroitichieroglyphs"], ["mlym", "malayalam"], ["modi"],
  ["mong", "mongolian"], ["mroo", "mro"], ["mtei", "meeteimayek"], ["mult", "multani"],
  ["mymr", "myanmar"], ["nagm", "nagmundari"], ["nand", "nandinagari"],
  ["narb", "oldnortharabian"], ["nbat", "nabataean"], ["newa"], ["nkoo", "nko"],
  ["nshu", "nushu"], ["ogam", "ogham"], ["olck", "olchiki"], ["onao", "olonal"],
  ["orkh", "oldturkic"], ["orya", "oriya"], ["osge", "osage"], ["osma", "osmanya"],
  ["ougr", "olduyghur"], ["palm", "palmyrene"], ["pauc", "paucinhau"], ["perm", "oldpermic"],
  ["phag", "phagspa"], ["phli", "inscriptionalpahlavi"], ["phlp", "psalterpahlavi"],
  ["phnx", "phoenician"], ["plrd", "miao"], ["prti", "inscriptionalparthian"],
  ["rjng", "rejang"], ["rohg", "hanifirohingya"], ["runr", "runic"], ["samr", "samaritan"],
  ["sarb", "oldsoutharabian"], ["saur", "saurashtra"], ["sgnw", "signwriting"],
  ["shaw", "shavian"], ["shrd", "sharada"], ["sidd", "siddham"], ["sind", "khudawadi"],
  ["sinh", "sinhala"], ["sogd", "sogdian"], ["sogo", "oldsogdian"], ["sora", "sorasompeng"],
  ["soyo", "soyombo"], ["sund", "sundanese"], ["sunu", "sunuwar"], ["sylo", "sylotinagri"],
  ["syrc", "syriac"], ["tagb", "tagbanwa"], ["takr", "takri"], ["tale", "taile"],
  ["talu", "newtailue"], ["taml", "tamil"], ["tang", "tangut"], ["tavt", "taiviet"],
  ["telu", "telugu"], ["tfng", "tifinagh"], ["tglg", "tagalog"], ["thaa", "thaana"], ["thai"],
  ["tibt", "tibetan"], ["tirh", "tirhuta"], ["tnsa", "tangsa"], ["todr", "todhri"], ["toto"],
  ["tutg", "tulutigalari"], ["ugar", "ugaritic"], ["vaii", "vai"], ["vith", "vithkuqi"],
  ["wara", "warangciti"], ["wcho", "wancho"], ["xpeo", "oldpersian"], ["xsux", "cuneiform"],
  ["yezi", "yezidi"], ["yiii", "yi"], ["zanb", "zanabazarsquare"],
  ["zinh", "inherited", "qaai"], ["zyyy", "common"]]

def scripts : ValueTable := .decode
  ["AlJiBiIalJGiIalJhPiIBlJPiIBlJFiIXlJBiIflJBiIuBlJhHiIFlJFNClJUlIjQhMElJBhMD-HChMElJBhMB-HEhMB",
   "lJBhMBlJBhMD-HBhMB-HBhMU-HBhMhfYOhMQbkFlICblJ-HBFhG-HCFhS-HCFD-HBhUhX-HIhUb-HEhUG-HLDFlJBDGl",
   "JBDOlJBDDlJBDhAlJBDKlILDalIBDjMlJBDhCkLO-HBkLhc-HCkLDDhQkWhS-HOjFhb-HCjFDjbhO-HCjbP-HBiSc-HC",
   "iSB-HBkLL-HFDf-HBDC-HFDiLlJBDdciRlIEcPlJCcaLE-HBLI-HCLC-HCLW-HBLH-HBLB-HDLE-HCLJ-HCLC-HCLE-H",
   "ILB-HELC-HBLF-HCLZ-HChPD-HBhPG-HEhPC-HChPW-HBhPH-HBhPC-HBhPC-HBhPC-HChPB-HBhPF-HEhPC-HChPD-H",
   "DhPB-HHhPE-HBhPB-HHhPR-HKhND-HBhNJ-HBhND-HBhNW-HBhNH-HBhNC-HBhNF-HChNK-HBhND-HBhND-HChNB-HPh",
   "NE-HChNM-HHhNH-HBjLD-HBjLI-HCjLC-HCjLW-HBjLH-HBjLC-HBjLF-HCjLJ-HCjLC-HCjLD-HHjLD-HEjLC-HBjLF",
   "-HCjLS-HKkQC-HBkQG-HDkQD-HBkQE-HDkQC-HBkQB-HBkQC-HDkQC-HDkQD-HDkQM-HEkQF-HDkQD-HBkQE-HCkQB-H",
   "GkQB-HOkQV-HFkTN-HBkTD-HBkTX-HBkTQ-HCkTJ-HBkTD-HBkTE-HHkTC-HBkTD-HCkTB-HCkTE-HCkTK-HHkTJiDN-",
   "HBiDD-HBiDX-HBiDK-HBiDF-HCiDJ-HBiDD-HBiDE-HHiDC-HGiDC-HBiDE-HCiDK-HBiDD-HMiZN-HBiZD-HBiZhT-H",
   "BiZD-HBiZG-HEiZQ-HCiZa-HBkDD-HBkDS-HDkDY-HBkDJ-HBkDB-HCkDH-HDkDB-HEkDG-HBkDB-HBkDI-HGkDK-HCk",
   "DD-HMkXha-HElJBkXc-HhFiHC-HBiHB-HBiHF-HBiHY-HBiHB-HBiHX-HCiHF-HBiHB-HBiHH-HBiHK-HCiHE-HhAkYi",
   "I-HBkYhE-HEkYhH-HBkYhE-HBkYP-HBkYHlJEkYC-HhFiflAhGhG-HBhGB-HFhGB-HChGhLlJBhGEhQoAhEiJ-HBhEE-",
   "HChEH-HBhEB-HBhEE-HChEhJ-HBhEE-HChEhB-HBhEE-HChEH-HBhEB-HBhEE-HChEP-HBhEhZ-HBhEE-HChEiD-HChE",
   "hA-HDhEa-HGWiW-HCWG-HCT0AjHd-HDjaiLlJDjaL-HHkVW-HJkVBhSVlJC-HJRU-HMkMN-HBkMD-HBkMC-HMiAie-HC",
   "iAK-HGiAK-HGibClJCibBlJBibU-HGibiZ-HHibhL-HFTiG-HKiKf-HBiKM-HEiKM-HEiKB-HDiKMkOe-HCkOF-HLkPh",
   "M-HEkPa-HGkPL-HDkPCiAhAQc-HCQCiGhf-HBiGd-HCiGL-HGiGK-HGiGO-HClIf-HhRHiN-HBHhSkIiAKhU-HIKEiJh",
   "Y-HDiJP-HDiJDjIhQbL-HFhGhL-HChGDkII-HIlIDlJBlINlJBlIHlJElIBlJGlIBlJDlIClJB-HFiIhGhMFbBiIhRhM",
   "FiIEhMFiINbBiIiGhMBlIiAiIoAhMW-HChMG-HChMhG-HChMG-HChMI-HBhMB-HBhMB-HBhMB-HBhMf-HChMhV-HBhMP",
   "-HBhMO-HChMG-HBhMT-HChMD-HBhMJ-HBlJMlIClJiX-HBlJLiIB-HClJLiIBlJP-HBiIN-HDlJhB-HPlIhB-HPlJhGh",
   "MBlJDiIClJGiIBlJbiIBlJRiIhJlJD-HElJ0a-HWlJL-HVlJ9APoAlJzU-HClJhA-HBlJjJhHjAiIhAYjU-HFYHhGhG-",
   "HBhGB-HFhGB-HCkUhY-HHkUC-HOkUBhEX-HJhEH-HBhEH-HBhEH-HBhEH-HBhEH-HBhEH-HBhEH-HBhEH-HBbhAlJie-",
   "HhChRa-HBhRiZ-HMhRmW-HalJVhRBlJBhRBlJZhRJlIEhQClJIhRElJE-HBhViW-HClIClJChVDlJBhdialJChdD-HFN",
   "hL-HBhQie-HBlJQNhAlJhG-HJlJBhdQhQf-HBlJiAhQflJiRhdhPlJBhdiYlJlIhRmuAlJiAhR0wAlGhkN-HDlGhX-HJ",
   "iNhQkfpM-HUbjAIiY-HIlJhCiIjGlJDiIiD-HCiIC-HBiIB-HBiII-HViIOkKhN-HDlJK-HGjShY-HIjdiG-HIjdM-HG",
   "chAhchOlJBhcBjYhE-HLjYBhQd-HDhbiO-HBlJBhbK-HEhbCiff-HBVhX-HJVO-HCVK-HCVEifhAkSiD-HYkSFidX-HK",
   "hEG-HChEG-HChEG-HJhEH-HBhEH-HBiIhLlJBiIJhMBiIElJC-HEWiQidhO-HCidK-HGhQq9E-HMhQX-HEhQhR-HooEh",
   "RrO-HChRjK-HhGiIH-HMFF-HFhUa-HBhUF-HBhUB-HBhUC-HBhUC-HBhUKDjT-HQDrLlJCDiQ-HCDhW-HHDB-HhADQlI",
   "QlJK-HGlIObClJhD-HBlJT-HBlJE-HEDF-HBDkH-HClJB-HBlJhAiIalJGiIalJLhdKlJBhdhNlJChQf-HDhQG-HChQG",
   "-HChQG-HChQD-HDlJH-HBlJH-HKlJF-HCiMM-HBiMa-HBiMT-HBiMC-HBiMP-HCiMO-HhCiMjb-HFlJD-HElJhN-HDlJ",
   "JhMiP-HBlJN-HDhMB-HhPlJhNlIB-HkCiOd-HDUhR-HPlIBlJb-HEhahE-HJhaDhKb-HFjRhL-HFkee-HBkeBlDhE-HE",
   "lDO-HhKfiQjfhQjNe-HCjNK-HGjMhE-HEjMhE-HEhChI-HIBhU-HLBBlAL-HBlAP-HBlAH-HBlAC-HBlAL-HBlAP-HBl",
   "AH-HBlAC-HDkbhU-HMiLpX-HJiLW-HKiLI-HYiIG-HBiIhK-HBiIJ-HiFaG-HCaB-HBahM-HBaC-HDaB-HCaBEW-HBEJ",
   "jPhAjDf-HIjDJ-HhQhTT-HBhTC-HFhTFjVc-HDjVBiPa-HFiPB-HiAiYhAiXY-HEiXU-HCiXhOhfE-HBhfC-HFhfI-HB",
   "hfD-HBhfd-HChfD-HEhfK-HHhfJ-HHjchAjChA-HhAiThH-HEiTM-HJGhW-HDGHjXW-HCjXIjTT-HFjTIjUS-HHjUE-H",
   "MjUH-HiQjKiJ-HhXhZhT-HNhZhT-HHhZGjZhI-HIjZK-HGhFhG-HDhFd-HIhFC-HmQDf-HBlFhK-HBlFD-HClFC-HQDD",
   "-HhXDEkFhI-HIkEhK-HWjOa-HhGXc-HUhDX-HJOiO-HEOhE-HJOBiFiD-HKiFB-HCkGZ-HHkGK-HGShV-HBSS-HIiQhH",
   "-HJkAjA-HBkDU-HLiBS-HBiBhP-HheieH-HBieB-HBieE-HBieP-HBieL-HGkChb-HFkCK-HGhLE-HBhLI-HChLC-HCh",
   "LW-HBhLH-HBhLC-HBhLF-HBlIBhLJ-HChLC-HChLD-HChLB-HGhLB-HFhLH-HChLH-HDhLF-HLkdK-HBkdB-HCkdB-HB",
   "kdhG-HBkdK-HBkdB-HCkdB-HBkdE-HBkdK-HBkdC-HIkdC-HdjEic-HBjEF-HekZiI-HIkZK-HlGkBhW-HCkBhG-HhCi",
   "aiF-HLiaK-HGibN-HTkNha-HGkNK-HGifU-HcCb-HCCP-HECX-HlZehc-HjElBiT-HMlBBdH-HCdB-HCdI-HBdC-HBde",
   "-HBdC-HCdM-HJdK-HiGjBI-HCjBhO-HCjBL-HblHiI-HIkHiT-HNTQjQhZ-HHcK-HlWkJhC-HOkJK-HGMJ-HBMhN-HBM",
   "O-HKMd-HDiUhA-HCiUW-HBiUO-HiJhJH-HBhJC-HBhJhM-HDhJB-HBhJC-HBhJJ-HIhJK-HGhIG-HBhIC-HBhIhF-HBh",
   "IC-HBhIG-HHhIK-HpWiRZ-HHheR-HBhehJ-HDhed-HiViNB-HPkQhS-HNkQBlE8a-HjGlEjP-HBlEF-HLlEmE-HiyMZj",
   "D-HNhBhiW-HKhBj8b-HFhWyH-Hm1ZhOha-Hh2GIxZ-HHicf-HBicK-HEicCkaiP-HBkaK-HGJe-HCJG-HKhXiG-HKhXK",
   "-HBhXH-HBhXV-HFhXT-HtQiEha-HmGiVib-HjFjWiL-HEjWhZ-HHjWR-HiAkRBjGBhRCiCB-HLhRC-HOkRl-Y-HIkR4A",
   "iCuW-HhJiCBkRJ-Ho3HhdE-HBhdH-HBhdC-HBhdBhVofhdD-HPhVB-HdhVD-HChdB-HOhdE-HIjGsM-HioEhAjL-HFhA",
   "N-HDhAJ-HHhAK-HChAElJE-Hj6clJna-HGlJtU-HiMlIhO-HClIX-HJlJjU-HhclJnW-HKlJhH-HClJhelIDlJRlIIlJ",
   "ClIHlJelIElJhd-HVhMiG-HjalJU-HMlJU-HMlJiX-HJlJZ-HkHlJiV-HBlJiH-HBlJC-HClJB-HClJC-HClJE-HBlJM",
   "-HBlJB-HBlJH-HBlJiB-HBlJE-HClJI-HBlJH-HBlJc-HBlJE-HBlJF-HBlJB-HDlJH-HBlJqU-HClJpE-HClJhSje0M",
   "-HPjeF-HBjeP-HhiQiIf-HGiIG-HmVhHH-HBhHR-HChHH-HBhHC-HBhHF-HFbhe-HhBbB-HjQhYhN-HDhYO-HChYK-HE",
   "hYC-HqAkcf-HRlCha-HFlCB-HuQjAhK-HmWjJhL-HEjJB-HvAhEH-HBhEE-HBhEC-HBhEP-HBiWmF-HCiWQ-HhJAiM-H",
   "EAK-HEAC-H4RlJiE-HiMlJhd-HmCDE-HBDb-HBDC-HBDB-HCDB-HBDK-HBDE-HBDB-HBDB-HGDB-HEDB-HBDB-HBDB-H",
   "BDD-HBDC-HBDB-HCDB-HBDB-HBDB-HBDB-HBDB-HBDC-HBDB-HCDE-HBDH-HBDE-HBDE-HBDB-HBDK-HBDR-HFDD-HBD",
   "F-HBDR-HhUDC-HoOlJhM-HElJjE-HMlJP-HClJP-HBlJP-HBlJhF-HKlJlO-HhYlJahVBlJC-HNlJhM-HElJJ-HHlJC-",
   "HOlJG-HkalJ+Y-HElJR-HDlJN-HDlJjX-HElJif-HGlJM-HElJB-HPlJM-HElJhY-HIlJK-HGlJhI-HIlJe-HClJM-HE",
   "lJC-HhelJqU-HMlJO-HClJN-HDlJK-HFlJhY-HHlJP-HClJL-HGlJJ-HHlJkT-HBlJjG-HhgGhRhp3A-HhAhRkha-HGh",
   "Rme-HChRl0C-HOhRnpR-HPhRzO-HitChRwe-HhvChRk6L-HFhRkjA-H13iRlJB-HelJjA-HkAlInQ-H"]

/-- Sets of more than one script. A value of `scriptExtensions` from the number of scripts on is a
place in this list. -/
def scriptSets : List (List Nat) := [
  [6, 20, 24, 32, 34, 38, 39, 40, 42, 44, 49, 72, 79, 80, 113, 127],
  [11, 27, 28, 72, 77, 151, 156], [13, 72], [72, 77], [72, 151],
  [22, 24, 27, 44, 72, 113, 137, 142], [22, 27, 44, 72, 108, 137, 142, 155], [22, 27, 72, 148],
  [39, 72, 137, 139, 151], [1, 22, 24, 27, 42, 44, 72, 108, 139, 148, 155],
  [24, 34, 39, 42, 61, 72], [27, 44, 72, 113], [24, 32, 52, 72, 113, 139, 142, 148, 155],
  [5, 27, 32, 42, 44, 52, 72, 113, 139, 142], [72, 148], [32, 72, 139], [22, 27, 72, 108],
  [22, 72, 142], [72, 137], [36, 72], [27, 72, 155], [44, 72, 113, 155], [72, 139],
  [22, 32, 61, 72, 139], [22, 32, 72, 139], [72, 137, 139], [22, 72, 139],
  [1, 22, 42, 72, 137, 151], [72, 108], [1, 72, 155], [24, 44], [27, 113], [27, 39], [27, 72],
  [5, 38, 39], [3, 37, 101, 121, 139, 150, 165], [3, 139, 150],
  [0, 3, 37, 101, 121, 139, 150, 165], [0, 3, 82, 83, 110, 116, 121, 132, 139], [3, 139],
  [3, 150, 165], [3, 121], [11, 28, 43, 45, 47, 67, 72, 89, 107, 128, 144, 147, 153],
  [11, 28, 43, 45, 47, 67, 72, 89, 107, 144, 147, 153],
  [11, 28, 30, 40, 41, 43, 45, 47, 67, 80, 89, 97, 105, 107, 130, 131, 138, 141, 144, 147, 153],
  [11, 28, 30, 40, 41, 43, 45, 46, 47, 67, 74, 80, 89, 97, 105, 107, 130, 131, 138, 141, 144, 147,
    153],
  [28, 30, 69, 80], [11, 18, 138], [47, 94], [45, 65], [43, 144], [67, 97, 157], [18, 95, 142],
  [38, 39, 72], [17, 50, 140, 149], [91, 114], [11, 28, 43, 67], [28, 43, 67], [11, 28],
  [28, 128], [28, 67, 89, 107, 144, 147], [28, 97],
  [11, 28, 43, 67, 89, 97, 107, 131, 147, 153, 157], [28, 43], [28, 43, 67, 157], [27, 72, 139],
  [72, 91, 114], [0, 3], [20, 38, 39, 57, 78, 106], [20, 44, 57, 88], [28, 43, 72], [24, 72],
  [6, 106], [6, 20, 38, 57, 69, 79, 123], [0, 3, 57], [49, 145], [13, 48, 49, 53, 61, 91, 166],
  [13, 48, 49, 53, 61, 91, 114, 166], [13, 48, 49, 53, 61], [13, 48, 49, 53, 61, 91, 152, 166],
  [13, 48, 49, 53, 61, 77, 91, 152, 166], [13, 48, 49, 53, 61, 166], [13, 49], [53, 61],
  [49, 53, 61], [49, 72], [28, 30, 45, 47, 65, 67, 69, 80, 89, 90, 97, 128, 130, 141, 153, 157],
  [28, 30, 45, 47, 65, 67, 69, 80, 90, 97, 128, 130, 141, 153, 157],
  [28, 30, 45, 47, 65, 69, 80, 90, 130, 141, 153],
  [28, 30, 45, 47, 65, 69, 80, 90, 128, 130, 141, 153], [11, 28, 157], [28, 144], [60, 72, 95],
  [16, 59], [3, 101], [3, 150], [25, 26, 76], [26, 76], [26, 75, 76], [3, 24], [83, 110]]

def scriptExtensions : ValueTable := .decode
  ["AlJiBiIalJGiIalJhPiIBlJMlKBlJCiIBlJFiIXlJBiIflJBiIuBlJDlLBlJKlMBlJBlMDlJBlNBlJJlOBlJBlMBlJGi",
   "IFlJFNClJUlPBlQBlRBlSBlTBlUBlVBlWBlXBlYBlZBlaBlbBlcBldBlIBlcBleBlIBlfBlIMmABlICmBBmCBmABlIHm",
   "DBmABlIBmEBmFBlIQhMBlIChMBlISmGBlIFmHBlIEiINhMEmIChMCi9XChMElJBhMBi9XEhMBlJBhMBlJBhMDi9XBhMB",
   "i9XBhMUi9XBhMhfYOhMQbkDmJBmKBmLCmKBblIi9XBFhGi9XCFhQmMBFBi9XCFDi9XBhUhXi9XIhUbi9XEhUGi9XLDFl",
   "JBDGmNBDOmNBmOBDCmPBDhAmQBDKmRLDKmSKDGmRBDjDmTBDIlJBDhCkLOi9XBkLhci9XCkLDDhQkWhSi9XOjFhbi9XC",
   "jFDjbhOi9XCjbPi9XBiSci9XCiSBi9XBkLLi9XFDfi9XBDCi9XFDiLlJBDdciRmUBmVBlICcPmWBmXBmYKcQLEi9XBLI",
   "i9XCLCi9XCLWi9XBLHi9XBLBi9XDLEi9XCLJi9XCLCi9XCLEi9XILBi9XELCi9XBLFi9XCmZKLPi9XChPDi9XBhPGi9X",
   "EhPCi9XChPWi9XBhPHi9XBhPCi9XBhPCi9XBhPCi9XChPBi9XBhPFi9XEhPCi9XChPDi9XDhPBi9XHhPEi9XBhPBi9XH",
   "maKhPHi9XKhNDi9XBhNJi9XBhNDi9XBhNWi9XBhNHi9XBhNCi9XBhNFi9XChNKi9XBhNDi9XBhNDi9XChNBi9XPhNEi9",
   "XCmbKhNCi9XHhNHi9XBjLDi9XBjLIi9XCjLCi9XCjLWi9XBjLHi9XBjLCi9XBjLFi9XCjLJi9XCjLCi9XCjLDi9XHjLD",
   "i9XEjLCi9XBjLFi9XCjLSi9XKkQCi9XBkQGi9XDkQDi9XBkQEi9XDkQCi9XBkQBi9XBkQCi9XDkQCi9XDkQDi9XDkQMi",
   "9XEkQFi9XDkQDi9XBkQEi9XCkQBi9XGkQBi9XOmcOkQHi9XFkTNi9XBkTDi9XBkTXi9XBkTQi9XCkTJi9XBkTDi9XBkT",
   "Ei9XHkTCi9XBkTDi9XCkTBi9XCkTEi9XCkTKi9XHkTJiDNi9XBiDDi9XBiDXi9XBiDKi9XBiDFi9XCiDJi9XBiDDi9XB",
   "iDEi9XHiDCi9XGiDCi9XBiDEi9XCmdKi9XBiDDi9XMiZNi9XBiZDi9XBiZhTi9XBiZDi9XBiZGi9XEiZQi9XCiZai9XB",
   "kDDi9XBkDSi9XDkDYi9XBkDJi9XBkDBi9XCkDHi9XDkDBi9XEkDGi9XBkDBi9XBkDIi9XGkDKi9XCkDDi9XMkXhai9XE",
   "lJBkXci9XhFiHCi9XBiHBi9XBiHFi9XBiHYi9XBiHBi9XBiHXi9XCiHFi9XBiHBi9XBiHHi9XBiHKi9XCiHEi9XhAkYi",
   "Ii9XBkYhEi9XEkYhHi9XBkYhEi9XBkYPi9XBkYHlJEkYCi9XhFifiAmeKifiWhGhGi9XBhGBi9XFhGBi9XChGhLmfBhG",
   "EhQoAhEiJi9XBhEEi9XChEHi9XBhEBi9XBhEEi9XChEhJi9XBhEEi9XChEhBi9XBhEEi9XChEHi9XBhEBi9XBhEEi9XC",
   "hEPi9XBhEhZi9XBhEEi9XChEiDi9XChEhAi9XDhEai9XGWiWi9XCWGi9XCT0AjHdi9XDjaiZi9XHkVWi9XJkVBhSVnAC",
   "i9XJRUi9XMkMNi9XBkMDi9XBkMCi9XMiAiei9XCiAKi9XGiAKi9XGibCnBCibBnBBibUi9XGibiZi9XHibhLi9XFTiGi",
   "9XKiKfi9XBiKMi9XEiKMi9XEiKBi9XDiKMkOei9XCkOFi9XLkPhMi9XEkPai9XGkPLi9XDkPCiAhAQci9XCQCiGhfi9X",
   "BiGdi9XCiGLi9XGiGKi9XGiGOi9XClIfi9XhRHiNi9XBHhSkIiAKhUi9XIKEiJhYi9XDiJPi9XDiJDjIhQbLi9XFhGhL",
   "i9XChGDkIIi9XInCBcBnCBnDBcBnECnFBnEBnFBnGBcBnFCcCnFBnEBcHnHBnEBcCnEBcEnIBnJBnKBnECLBnJCjBBi9",
   "XFiIhGhMFbBiIhRhMFiIEhMFiINbBiIiGhMDlIhWnLBlIBkLBlIFiIoAhMWi9XChMGi9XChMhGi9XChMGi9XChMIi9XB",
   "hMBi9XBhMBi9XBhMBi9XBhMfi9XChMhVi9XBhMPi9XBhMOi9XChMGi9XBhMTi9XChMDi9XBhMJi9XBlJMlIClJhBnMBl",
   "JfnNBlJKnOBlJCnPBlJHi9XBlJLiIBi9XClJLiIBlJPi9XBiINi9XDlJhBi9XPlIhAnQBi9XPlJhGhMBlJDiIClJGiIB",
   "lJbiIBlJRiIhJlJDi9XElJ0ai9XWlJLi9XVlJ9APoAlJzUi9XClJhAi9XBlJjJhHjAiIhAYjUi9XFYHhGhGi9XBhGBi9",
   "XFhGBi9XCkUhYi9XHkUCi9XOkUBhEXi9XJhEHi9XBhEHi9XBhEHi9XBhEHi9XBhEHi9XBhEHi9XBhEHi9XBhEHi9XBbh",
   "AlJXnRBlJYnSBnTBlJKhABlJEnUBlJBmKBlJai9XhChRai9XBhRiZi9XMhRmWi9XanVQlJBnWBnXBnYBlJBhRDnZCnaC",
   "nbGlJBnYBnbInYElJBhRJncEhQCnYBndFlJBnYBhREneChRCi9XBhViWi9XCndEhVDndBhdianbBndBhdDi9XFNhLi9X",
   "BhQiei9XBhRQNhAhRhGi9XJnVBhdQhQfi9XBhRhIlJYhQflJBhRhRlJPhRMlJEhdhPhRBhdiYhRZlJKhRFlJjAhRflJB",
   "hRmuAlJiAhR0wAlGhkNi9XDlGhXi9XJiNhQkfpMi9XUbhPmKBbhQIiYi9XInfIlJaiIjGlJDiIiDi9XCiICi9XBiIBi9",
   "XBiIIi9XViIOkKhNi9XDoADoBDoCCoDBoCBi9XGjShYi9XIjdiGi9XIjdMi9XGcRoEBcBoFBcMhchOoGBhcBjYhEi9XL",
   "jYBhQdi9XDhbiOi9XBoHBhbKi9XEhbCiffi9XBVhXi9XJVOi9XCVKi9XCVEifhAkSiDi9XYkSFidXi9XKhEGi9XChEGi",
   "9XChEGi9XJhEHi9XBhEHi9XBiIhLlJBiIJhMBiIElJCi9XEWiQidhOi9XCidKi9XGhQq9Ei9XMhQXi9XEhQhRi9XooEh",
   "RrOi9XChRjKi9XhGiIHi9XMFFi9XFhUai9XBhUFi9XBhUBi9XBhUCi9XBhUCi9XBhUKDjTi9XQDrLoICDiQi9XCDhWi9",
   "XHDBi9XhADCoJBDKoJBDClIQlJKi9XGlIObClJVnYClJMi9XBlJTi9XBlJEi9XEDFi9XBDkHi9XClJBi9XBlJhAiIalJ",
   "GiIalJGnbFhdKndBhdhNndChQfi9XDhQGi9XChQGi9XChQGi9XChQDi9XDlJHi9XBlJHi9XKlJFi9XCiMMi9XBiMai9X",
   "BiMTi9XBiMCi9XBiMPi9XCiMOi9XhCiMjbi9XFoKCoLBi9XEoMhNi9XDoLJhMiPi9XBlJNi9XDhMBi9XhPlJhNlIBi9X",
   "kCiOdi9XDUhRi9XPoNci9XEhahEi9XJhaDhKbi9XFjRhLi9XFkeei9XBkeBlDhEi9XElDOi9XhKfiQjfhQjNei9XCjNK",
   "i9XGjMhEi9XEjMhEi9XEhChIi9XIBhUi9XLBBlALi9XBlAPi9XBlAHi9XBlACi9XBlALi9XBlAPi9XBlAHi9XBlACi9X",
   "DkbhUi9XMiLpXi9XJiLWi9XKiLIi9XYiIGi9XBiIhKi9XBiIJi9XiFaGi9XCaBi9XBahMi9XBaCi9XDaBi9XCaBEWi9X",
   "BEJjPhAjDfi9XIjDJi9XhQhTTi9XBhTCi9XFhTFjVci9XDjVBiPai9XFiPBi9XiAiYhAiXYi9XEiXUi9XCiXhOhfEi9X",
   "BhfCi9XFhfIi9XBhfDi9XBhfdi9XChfDi9XEhfKi9XHhfJi9XHjchAjChAi9XhAiThHi9XEiTHoOBiTEi9XJGhWi9XDG",
   "HjXWi9XCjXIjTTi9XFjTIjUSi9XHjUEi9XMjUHi9XiQjKiJi9XhXhZhTi9XNhZhTi9XHhZGjZhIi9XIjZKi9XGhFhGi9",
   "XDhFdi9XIhFCi9XmQDfi9XBlFhKi9XBlFDi9XClFCi9XQDDi9XhXDEkFhIi9XIkEhKi9XWjOai9XhGXci9XUhDXi9XJO",
   "iOi9XEOhEi9XJOBiFiDi9XKiFBi9XCkGZi9XHkGKi9XGShVi9XBSSi9XIiQhHi9XJkAjAi9XBkDUi9XLiBSi9XBiBhPi",
   "9XheieHi9XBieBi9XBieEi9XBiePi9XBieLi9XGkChbi9XFkCKi9XGhLBmcBhLBmcBi9XBhLIi9XChLCi9XChLWi9XBh",
   "LHi9XBhLCi9XBhLFi9XBmcChLIi9XChLCi9XChLDi9XChLBi9XGhLBi9XFhLHi9XChLHi9XDhLFi9XLkdKi9XBkdBi9X",
   "CkdBi9XBkdhGi9XBkdKi9XBkdBi9XCkdBi9XBkdEi9XBkdKi9XBkdCi9XIkdCi9XdjEici9XBjEFi9XekZiIi9XIkZKi",
   "9XlGkBhWi9XCkBhGi9XhCiaiFi9XLiaKi9XGibNi9XTkNhai9XGkNKi9XGifUi9XcCbi9XCCPi9XECXi9XlZehci9XjE",
   "lBiTi9XMlBBdHi9XCdBi9XCdIi9XBdCi9XBdei9XBdCi9XCdMi9XJdKi9XiGjBIi9XCjBhOi9XCjBLi9XblHiIi9XIkH",
   "iTi9XNTQjQhZi9XHcKi9XlWkJhCi9XOkJKi9XGMJi9XBMhNi9XBMOi9XKMdi9XDiUhAi9XCiUWi9XBiUOi9XiJhJHi9X",
   "BhJCi9XBhJhMi9XDhJBi9XBhJCi9XBhJJi9XIhJKi9XGhIGi9XBhICi9XBhIhFi9XBhICi9XBhIGi9XHhIKi9XpWiRZi",
   "9XHheRi9XBhehJi9XDhedi9XiViNBi9XPkQQmcCkQBmcBkQei9XNkQBlE8ai9XjGlEjPi9XBlEFi9XLlEmEi9XiyMZjD",
   "i9XNhBhiWi9XKhBj8bi9XFhWyHi9Xm1ZhOhai9Xh2GIxZi9XHicfi9XBicKi9XEicCkaiPi9XBkaKi9XGJei9XCJGi9X",
   "KhXiGi9XKhXKi9XBhXHi9XBhXVi9XFhXTi9XtQiEhai9XmGiVibi9XjFjWiLi9XEjWhZi9XHjWRi9XiAkRBjGBhRCiCB",
   "i9XLhRCi9XOkRl-Yi9XIkR4AiCuWi9XhJiCBkRJi9Xo3HhdEi9XBhdHi9XBhdCi9XBhdBhVofhdDi9XPhVBi9XdhVDi9",
   "XChdBi9XOhdEi9XIjGsMi9XioEhAjLi9XFhANi9XDhAJi9XHhAKi9XChAIi9Xj6clJnai9XGlJtUi9XiMlIhOi9XClIX",
   "i9XJlJjUi9XhclJnWi9XKlJhHi9XClJhelIDlJRlIIlJClIHlJelIElJhdi9XVhMiGi9XjalJUi9XMlJUi9XMlJiXi9X",
   "JhRSlJHi9XkHlJiVi9XBlJiHi9XBlJCi9XClJBi9XClJCi9XClJEi9XBlJMi9XBlJBi9XBlJHi9XBlJiBi9XBlJEi9XC",
   "lJIi9XBlJHi9XBlJci9XBlJEi9XBlJFi9XBlJBi9XDlJHi9XBlJqUi9XClJpEi9XClJhSje0Mi9XPjeFi9XBjePi9Xhi",
   "QiIfi9XGiIGi9XmVhHHi9XBhHRi9XChHHi9XBhHCi9XBhHFi9XFbhei9XhBbBi9XjQhYhNi9XDhYOi9XChYKi9XEhYCi",
   "9XqAkcfi9XRlChai9XFlCBi9XuQjAhKi9XmWjJhLi9XEjJBi9XvAhEHi9XBhEEi9XBhECi9XBhEPi9XBiWmFi9XCiWQi",
   "9XhJAiMi9XEAKi9XEACi9X4RlJiEi9XiMlJhdi9XmCDEi9XBDbi9XBDCi9XBDBi9XCDBi9XBDKi9XBDEi9XBDBi9XBDB",
   "i9XGDBi9XEDBi9XBDBi9XBDBi9XBDDi9XBDCi9XBDBi9XCDBi9XBDBi9XBDBi9XBDBi9XBDBi9XBDCi9XBDBi9XCDEi9",
   "XBDHi9XBDEi9XBDEi9XBDBi9XBDKi9XBDRi9XFDDi9XBDFi9XBDRi9XhUDCi9XoOlJhMi9XElJjEi9XMlJPi9XClJPi9",
   "XBlJPi9XBlJhFi9XKlJlOi9XhYlJahVBlJCi9XNlJhMi9XElJJi9XHhRCi9XOlJGi9XkalJ+Yi9XElJRi9XDlJNi9XDl",
   "JjXi9XElJifi9XGlJMi9XElJBi9XPlJMi9XElJhYi9XIlJKi9XGlJhIi9XIlJei9XClJMi9XElJCi9XhelJqUi9XMlJO",
   "i9XClJNi9XDlJKi9XFlJhYi9XHlJPi9XClJLi9XGlJJi9XHlJkTi9XBlJjGi9XhgGhRhp3Ai9XhAhRkhai9XGhRmei9X",
   "ChRl0Ci9XOhRnpRi9XPhRzOi9XitChRwei9XhvChRk6Li9XFhRkjAi9X13iRlJBi9XelJjAi9XkAlInQi9X"]

end ElementRules.Pattern

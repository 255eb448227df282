import Crosstab.Text.Script

/-!
# Scripts that share characters

Most characters belong to one script.  `shared` lists the others with all scripts that use them;
a script that uses a character need not be the one the character belongs to.
-/

namespace Crosstab.Text.Script

/-- Scripts and the code points that exactly these scripts use. -/
def shared : List (List String × List Run) :=
  [(["avestan", "carian", "coptic", "duployan", "elbasan", "georgian", "glagolitic", "gothic",
   "greek", "gunjalagondi", "han", "latin", "lydian", "mahajani", "oldpermic", "shavian"],
    [⟨0xB7, 0xB7, 1⟩]),
   (["bengali", "cyrillic", "devanagari", "latin", "lisu", "thai", "toto"],
    [⟨0x2BC, 0x2BC, 1⟩]),
   (["bopomofo", "latin"],
    [⟨0x2C7, 0x2C7, 1⟩, ⟨0x2C9, 0x2CB, 1⟩, ⟨0x2D9, 0x2D9, 1⟩]),
   (["latin", "lisu"],
    [⟨0x2CD, 0x2CD, 1⟩]),
   (["latin", "thai"],
    [⟨0x2D7, 0x2D7, 1⟩]),
   (["cherokee", "coptic", "cyrillic", "greek", "latin", "oldpermic", "sunuwar", "taile"],
    [⟨0x300, 0x300, 1⟩]),
   (["cherokee", "cyrillic", "greek", "latin", "osage", "sunuwar", "taile", "todhri"],
    [⟨0x301, 0x301, 1⟩]),
   (["cherokee", "cyrillic", "latin", "tifinagh"],
    [⟨0x302, 0x302, 1⟩]),
   (["glagolitic", "latin", "sunuwar", "syriac", "thai"],
    [⟨0x303, 0x303, 1⟩]),
   (["caucasianalbanian", "cherokee", "coptic", "cyrillic", "gothic", "greek", "latin", "osage",
    "syriac", "tifinagh", "todhri"],
    [⟨0x304, 0x304, 1⟩]),
   (["coptic", "elbasan", "glagolitic", "gothic", "katakana", "latin"],
    [⟨0x305, 0x305, 1⟩]),
   (["cyrillic", "greek", "latin", "oldpermic"],
    [⟨0x306, 0x306, 1⟩]),
   (["coptic", "duployan", "hebrew", "latin", "oldpermic", "syriac", "taile", "tifinagh", "todhri"],
    [⟨0x307, 0x307, 1⟩]),
   (["armenian", "cyrillic", "duployan", "gothic", "greek", "hebrew", "latin", "oldpermic",
    "syriac", "taile"],
    [⟨0x308, 0x308, 1⟩]),
   (["latin", "tifinagh"],
    [⟨0x309, 0x309, 1⟩]),
   (["duployan", "latin", "syriac"],
    [⟨0x30A, 0x30A, 1⟩]),
   (["cherokee", "cyrillic", "latin", "osage"],
    [⟨0x30B, 0x30B, 1⟩]),
   (["cherokee", "latin", "taile"],
    [⟨0x30C, 0x30C, 1⟩]),
   (["latin", "sunuwar"],
    [⟨0x30D, 0x30D, 1⟩, ⟨0x310, 0x310, 1⟩]),
   (["ethiopic", "latin"],
    [⟨0x30E, 0x30E, 1⟩]),
   (["cyrillic", "latin", "todhri"],
    [⟨0x311, 0x311, 1⟩]),
   (["greek", "latin", "oldpermic", "todhri"],
    [⟨0x313, 0x313, 1⟩]),
   (["latin", "syriac"],
    [⟨0x320, 0x320, 1⟩, ⟨0x325, 0x325, 1⟩, ⟨0x32E, 0x32E, 1⟩]),
   (["cherokee", "duployan", "katakana", "latin", "syriac"],
    [⟨0x323, 0x323, 1⟩]),
   (["cherokee", "duployan", "latin", "syriac"],
    [⟨0x324, 0x324, 1⟩]),
   (["latin", "sunuwar", "syriac"],
    [⟨0x32D, 0x32D, 1⟩]),
   (["cherokee", "latin", "syriac"],
    [⟨0x330, 0x330, 1⟩]),
   (["caucasianalbanian", "cherokee", "gothic", "latin", "sunuwar", "thai"],
    [⟨0x331, 0x331, 1⟩]),
   (["greek"],
    [⟨0x342, 0x342, 1⟩, ⟨0x345, 0x345, 1⟩, ⟨0x1DC0, 0x1DC1, 1⟩]),
   (["latin", "osage"],
    [⟨0x358, 0x358, 1⟩]),
   (["caucasianalbanian", "latin", "todhri"],
    [⟨0x35E, 0x35E, 1⟩]),
   (["latin"],
    [⟨0x363, 0x36F, 1⟩]),
   (["coptic", "greek"],
    [⟨0x374, 0x375, 1⟩]),
   (["cyrillic", "oldpermic"],
    [⟨0x483, 0x483, 1⟩]),
   (["cyrillic", "glagolitic"],
    [⟨0x484, 0x484, 1⟩, ⟨0x487, 0x487, 1⟩, ⟨0x2E43, 0x2E43, 1⟩, ⟨0xA66F, 0xA66F, 1⟩]),
   (["cyrillic", "latin"],
    [⟨0x485, 0x486, 1⟩]),
   (["armenian", "georgian", "glagolitic"],
    [⟨0x589, 0x589, 1⟩]),
   (["arabic", "garay", "hanifirohingya", "nko", "syriac", "thaana", "yezidi"],
    [⟨0x60C, 0x60C, 1⟩, ⟨0x61B, 0x61B, 1⟩]),
   (["arabic", "syriac", "thaana"],
    [⟨0x61C, 0x61C, 1⟩]),
   (["adlam", "arabic", "garay", "hanifirohingya", "nko", "syriac", "thaana", "yezidi"],
    [⟨0x61F, 0x61F, 1⟩]),
   (["adlam", "arabic", "hanifirohingya", "mandaic", "manichaean", "olduyghur", "psalterpahlavi",
    "sogdian", "syriac"],
    [⟨0x640, 0x640, 1⟩]),
   (["arabic", "syriac"],
    [⟨0x64B, 0x655, 1⟩, ⟨0x670, 0x670, 1⟩]),
   (["arabic", "thaana", "yezidi"],
    [⟨0x660, 0x669, 1⟩]),
   (["arabic", "hanifirohingya"],
    [⟨0x6D4, 0x6D4, 1⟩]),
   (["bengali", "devanagari", "grantha", "gujarati", "gurmukhi", "kannada", "latin", "malayalam",
    "oriya", "sharada", "tamil", "telugu", "tirhuta"],
    [⟨0x951, 0x951, 1⟩]),
   (["bengali", "devanagari", "grantha", "gujarati", "gurmukhi", "kannada", "latin", "malayalam",
    "oriya", "tamil", "telugu", "tirhuta"],
    [⟨0x952, 0x952, 1⟩]),
   (["bengali", "devanagari", "dogra", "grantha", "gujarati", "gunjalagondi", "gurmukhi", "kannada",
    "khudawadi", "mahajani", "malayalam", "masaramgondi", "nandinagari", "olonal", "oriya",
    "sinhala", "sylotinagri", "takri", "tamil", "telugu", "tirhuta"],
    [⟨0x964, 0x964, 1⟩]),
   (["bengali", "devanagari", "dogra", "grantha", "gujarati", "gunjalagondi", "gurmukhi",
    "gurungkhema", "kannada", "khudawadi", "limbu", "mahajani", "malayalam", "masaramgondi",
    "nandinagari", "olonal", "oriya", "sinhala", "sylotinagri", "takri", "tamil", "telugu",
    "tirhuta"],
    [⟨0x965, 0x965, 1⟩]),
   (["devanagari", "dogra", "kaithi", "mahajani"],
    [⟨0x966, 0x96F, 1⟩]),
   (["bengali", "chakma", "sylotinagri"],
    [⟨0x9E6, 0x9EF, 1⟩]),
   (["gurmukhi", "multani"],
    [⟨0xA66, 0xA6F, 1⟩]),
   (["gujarati", "khojki"],
    [⟨0xAE6, 0xAEF, 1⟩]),
   (["grantha", "tamil"],
    [⟨0xBE6, 0xBF3, 1⟩, ⟨0x11301, 0x11301, 1⟩, ⟨0x11303, 0x11303, 1⟩, ⟨0x1133B, 0x1133C, 1⟩,
     ⟨0x11FD0, 0x11FD1, 1⟩, ⟨0x11FD3, 0x11FD3, 1⟩]),
   (["kannada", "nandinagari", "tulutigalari"],
    [⟨0xCE6, 0xCEF, 1⟩]),
   (["chakma", "myanmar", "taile"],
    [⟨0x1040, 0x1049, 1⟩]),
   (["georgian", "glagolitic", "latin"],
    [⟨0x10FB, 0x10FB, 1⟩]),
   (["runic"],
    [⟨0x16EB, 0x16ED, 1⟩]),
   (["buhid", "hanunoo", "tagalog", "tagbanwa"],
    [⟨0x1735, 0x1736, 1⟩]),
   (["mongolian", "phagspa"],
    [⟨0x1802, 0x1803, 1⟩, ⟨0x1805, 0x1805, 1⟩]),
   (["bengali", "devanagari", "grantha", "kannada"],
    [⟨0x1CD0, 0x1CD0, 1⟩, ⟨0x1CD2, 0x1CD2, 1⟩]),
   (["devanagari"],
    [⟨0x1CD1, 0x1CD1, 1⟩, ⟨0x1CD4, 0x1CD4, 1⟩, ⟨0x1CDB, 0x1CDB, 1⟩, ⟨0x1CDE, 0x1CDF, 1⟩,
     ⟨0x1CE2, 0x1CE8, 1⟩, ⟨0x1CEB, 0x1CEC, 1⟩, ⟨0x1CEE, 0x1CF1, 1⟩]),
   (["devanagari", "grantha", "kannada"],
    [⟨0x1CD3, 0x1CD3, 1⟩]),
   (["bengali", "devanagari"],
    [⟨0x1CD5, 0x1CD6, 1⟩, ⟨0x1CD8, 0x1CD8, 1⟩, ⟨0x1CE1, 0x1CE1, 1⟩, ⟨0x1CEA, 0x1CEA, 1⟩,
     ⟨0x1CED, 0x1CED, 1⟩, ⟨0x1CF5, 0x1CF6, 1⟩]),
   (["devanagari", "sharada"],
    [⟨0x1CD7, 0x1CD7, 1⟩, ⟨0x1CD9, 0x1CD9, 1⟩, ⟨0x1CDC, 0x1CDD, 1⟩, ⟨0x1CE0, 0x1CE0, 1⟩]),
   (["devanagari", "kannada", "malayalam", "oriya", "tamil", "telugu"],
    [⟨0x1CDA, 0x1CDA, 1⟩]),
   (["devanagari", "nandinagari"],
    [⟨0x1CE9, 0x1CE9, 1⟩]),
   (["bengali", "devanagari", "grantha", "kannada", "malayalam", "nandinagari", "oriya", "sinhala",
    "telugu", "tirhuta", "tulutigalari"],
    [⟨0x1CF2, 0x1CF2, 1⟩]),
   (["devanagari", "grantha"],
    [⟨0x1CF3, 0x1CF3, 1⟩, ⟨0x1CF8, 0x1CF9, 1⟩]),
   (["devanagari", "grantha", "kannada", "tulutigalari"],
    [⟨0x1CF4, 0x1CF4, 1⟩]),
   (["bengali"],
    [⟨0x1CF7, 0x1CF7, 1⟩]),
   (["nandinagari"],
    [⟨0x1CFA, 0x1CFA, 1⟩]),
   (["cyrillic", "latin", "syriac"],
    [⟨0x1DF8, 0x1DF8, 1⟩]),
   (["syriac"],
    [⟨0x1DFA, 0x1DFA, 1⟩]),
   (["latin", "mongolian", "phagspa"],
    [⟨0x202F, 0x202F, 1⟩]),
   (["adlam", "arabic"],
    [⟨0x204F, 0x204F, 1⟩]),
   (["carian", "georgian", "glagolitic", "lycian", "oldhungarian", "oldturkic"],
    [⟨0x205A, 0x205A, 1⟩]),
   (["carian", "greek", "meroitichieroglyphs", "oldhungarian"],
    [⟨0x205D, 0x205D, 1⟩]),
   (["devanagari", "grantha", "latin"],
    [⟨0x20F0, 0x20F0, 1⟩]),
   (["coptic", "latin"],
    [⟨0x2E17, 0x2E17, 1⟩]),
   (["avestan", "oldturkic"],
    [⟨0x2E30, 0x2E30, 1⟩]),
   (["avestan", "carian", "georgian", "kaithi", "lydian", "oldhungarian", "samaritan"],
    [⟨0x2E31, 0x2E31, 1⟩]),
   (["duployan"],
    [⟨0x2E3C, 0x2E3C, 1⟩, ⟨0x1BCA0, 0x1BCA3, 1⟩]),
   (["adlam", "arabic", "oldhungarian"],
    [⟨0x2E41, 0x2E41, 1⟩]),
   (["han", "tangut"],
    [⟨0x2FF0, 0x2FFF, 1⟩, ⟨0x31EF, 0x31EF, 1⟩]),
   (["bopomofo", "han", "hangul", "hiragana", "katakana", "mongolian", "yi"],
    [⟨0x3001, 0x3001, 1⟩]),
   (["bopomofo", "han", "hangul", "hiragana", "katakana", "mongolian", "phagspa", "yi"],
    [⟨0x3002, 0x3002, 1⟩]),
   (["bopomofo", "han", "hangul", "hiragana", "katakana"],
    [⟨0x3003, 0x3003, 1⟩, ⟨0x3013, 0x3013, 1⟩, ⟨0x301C, 0x301F, 1⟩, ⟨0x3030, 0x3030, 1⟩,
     ⟨0x3037, 0x3037, 1⟩, ⟨0xFE45, 0xFE46, 1⟩]),
   (["han"],
    [⟨0x3006, 0x3006, 1⟩, ⟨0x303E, 0x303F, 1⟩, ⟨0x3190, 0x319F, 1⟩, ⟨0x31C0, 0x31E5, 1⟩,
     ⟨0x3220, 0x3247, 1⟩, ⟨0x3280, 0x32B0, 1⟩, ⟨0x32C0, 0x32CB, 1⟩, ⟨0x32FF, 0x32FF, 1⟩,
     ⟨0x3358, 0x3370, 1⟩, ⟨0x337B, 0x337F, 1⟩, ⟨0x33E0, 0x33FE, 1⟩, ⟨0x1D360, 0x1D371, 1⟩,
     ⟨0x1F250, 0x1F251, 1⟩]),
   (["bopomofo", "han", "hangul", "hiragana", "katakana", "mongolian", "tibetan", "yi"],
    [⟨0x3008, 0x3009, 1⟩]),
   (["bopomofo", "han", "hangul", "hiragana", "katakana", "lisu", "mongolian", "tibetan", "yi"],
    [⟨0x300A, 0x300B, 1⟩]),
   (["bopomofo", "han", "hangul", "hiragana", "katakana", "yi"],
    [⟨0x300C, 0x3011, 1⟩, ⟨0x3014, 0x301B, 1⟩, ⟨0x30FB, 0x30FB, 1⟩, ⟨0xFF61, 0xFF65, 1⟩]),
   (["bopomofo", "han"],
    [⟨0x302A, 0x302D, 1⟩]),
   (["hiragana", "katakana"],
    [⟨0x3031, 0x3035, 1⟩, ⟨0x3099, 0x309C, 1⟩, ⟨0x30A0, 0x30A0, 1⟩, ⟨0x30FC, 0x30FC, 1⟩,
     ⟨0xFF70, 0xFF70, 1⟩, ⟨0xFF9E, 0xFF9F, 1⟩]),
   (["han", "hiragana", "katakana"],
    [⟨0x303C, 0x303D, 1⟩]),
   (["han", "latin"],
    [⟨0xA700, 0xA707, 1⟩]),
   (["devanagari", "dogra", "gujarati", "gurmukhi", "kaithi", "kannada", "khojki", "khudawadi",
    "mahajani", "malayalam", "modi", "nandinagari", "sharada", "takri", "tirhuta", "tulutigalari"],
    [⟨0xA830, 0xA832, 1⟩]),
   (["devanagari", "dogra", "gujarati", "gurmukhi", "kaithi", "kannada", "khojki", "khudawadi",
    "mahajani", "modi", "nandinagari", "sharada", "takri", "tirhuta", "tulutigalari"],
    [⟨0xA833, 0xA835, 1⟩]),
   (["devanagari", "dogra", "gujarati", "gurmukhi", "kaithi", "khojki", "khudawadi", "mahajani",
    "modi", "takri", "tirhuta"],
    [⟨0xA836, 0xA837, 1⟩, ⟨0xA839, 0xA839, 1⟩]),
   (["devanagari", "dogra", "gujarati", "gurmukhi", "kaithi", "khojki", "khudawadi", "mahajani",
    "modi", "sharada", "takri", "tirhuta"],
    [⟨0xA838, 0xA838, 1⟩]),
   (["bengali", "devanagari", "tulutigalari"],
    [⟨0xA8F1, 0xA8F1, 1⟩]),
   (["devanagari", "tamil"],
    [⟨0xA8F3, 0xA8F3, 1⟩]),
   (["kayahli", "latin", "myanmar"],
    [⟨0xA92E, 0xA92E, 1⟩]),
   (["buginese", "javanese"],
    [⟨0xA9CF, 0xA9CF, 1⟩]),
   (["arabic", "nko"],
    [⟨0xFD3E, 0xFD3F, 1⟩]),
   (["arabic", "thaana"],
    [⟨0xFDF2, 0xFDF2, 1⟩, ⟨0xFDFD, 0xFDFD, 1⟩]),
   (["cypriot", "cyprominoan", "linearb"],
    [⟨0x10100, 0x10101, 1⟩]),
   (["cypriot", "linearb"],
    [⟨0x10102, 0x10102, 1⟩, ⟨0x10137, 0x1013F, 1⟩]),
   (["cypriot", "lineara", "linearb"],
    [⟨0x10107, 0x10133, 1⟩]),
   (["arabic", "coptic"],
    [⟨0x102E0, 0x102FB, 1⟩]),
   (["manichaean", "olduyghur"],
    [⟨0x10AF2, 0x10AF2, 1⟩])]

/-- The code points that more than one script uses, or another one than their own. -/
def sharedRuns : List Run := shared.flatMap (·.2)

/-- The shared code points that the script of a name uses. -/
def sharedBy (name : String) : List Run := (shared.filter fun s => s.1.contains name).flatMap (·.2)

end Crosstab.Text.Script

import TitleScript.Text.ScalarMap

/-!
# Tables of the case mappings

The full Unicode case mappings that do not depend on context or language: to lower case, to upper
case, and to the common form under which texts are compared without regard to case. A letter such
as sharp s has several characters in upper case, and so has its folded form.

The tables hold each mapping as runs of equally spaced characters that move by one distance.

## Main definitions

* `Text.lowerMap`, `Text.upperMap`, `Text.foldMap` — the three mappings
-/

namespace TitleScript

namespace Text

open ScalarMap

/-- The full mapping to lower case, with sigma in the form used inside a word. -/
@[irreducible]
def lowerMap : ScalarMap where
  runs := #[
    ⟨0x41, 0x5A, 1, .shift 32⟩, ⟨0xC0, 0xD6, 1, .shift 32⟩, ⟨0xD8, 0xDE, 1, .shift 32⟩,
    ⟨0x100, 0x12E, 2, .shift 1⟩, ⟨0x130, 0x130, 1, .text [0x69, 0x307]⟩,
    ⟨0x132, 0x136, 2, .shift 1⟩, ⟨0x139, 0x147, 2, .shift 1⟩, ⟨0x14A, 0x176, 2, .shift 1⟩,
    ⟨0x178, 0x178, 1, .shift (-121)⟩, ⟨0x179, 0x17D, 2, .shift 1⟩, ⟨0x181, 0x181, 1, .shift 210⟩,
    ⟨0x182, 0x184, 2, .shift 1⟩, ⟨0x186, 0x186, 1, .shift 206⟩, ⟨0x187, 0x187, 1, .shift 1⟩,
    ⟨0x189, 0x18A, 1, .shift 205⟩, ⟨0x18B, 0x18B, 1, .shift 1⟩, ⟨0x18E, 0x18E, 1, .shift 79⟩,
    ⟨0x18F, 0x18F, 1, .shift 202⟩, ⟨0x190, 0x190, 1, .shift 203⟩, ⟨0x191, 0x191, 1, .shift 1⟩,
    ⟨0x193, 0x193, 1, .shift 205⟩, ⟨0x194, 0x194, 1, .shift 207⟩, ⟨0x196, 0x196, 1, .shift 211⟩,
    ⟨0x197, 0x197, 1, .shift 209⟩, ⟨0x198, 0x198, 1, .shift 1⟩, ⟨0x19C, 0x19C, 1, .shift 211⟩,
    ⟨0x19D, 0x19D, 1, .shift 213⟩, ⟨0x19F, 0x19F, 1, .shift 214⟩, ⟨0x1A0, 0x1A4, 2, .shift 1⟩,
    ⟨0x1A6, 0x1A6, 1, .shift 218⟩, ⟨0x1A7, 0x1A7, 1, .shift 1⟩, ⟨0x1A9, 0x1A9, 1, .shift 218⟩,
    ⟨0x1AC, 0x1AC, 1, .shift 1⟩, ⟨0x1AE, 0x1AE, 1, .shift 218⟩, ⟨0x1AF, 0x1AF, 1, .shift 1⟩,
    ⟨0x1B1, 0x1B2, 1, .shift 217⟩, ⟨0x1B3, 0x1B5, 2, .shift 1⟩, ⟨0x1B7, 0x1B7, 1, .shift 219⟩,
    ⟨0x1B8, 0x1B8, 1, .shift 1⟩, ⟨0x1BC, 0x1BC, 1, .shift 1⟩, ⟨0x1C4, 0x1C4, 1, .shift 2⟩,
    ⟨0x1C5, 0x1C5, 1, .shift 1⟩, ⟨0x1C7, 0x1C7, 1, .shift 2⟩, ⟨0x1C8, 0x1C8, 1, .shift 1⟩,
    ⟨0x1CA, 0x1CA, 1, .shift 2⟩, ⟨0x1CB, 0x1DB, 2, .shift 1⟩, ⟨0x1DE, 0x1EE, 2, .shift 1⟩,
    ⟨0x1F1, 0x1F1, 1, .shift 2⟩, ⟨0x1F2, 0x1F4, 2, .shift 1⟩, ⟨0x1F6, 0x1F6, 1, .shift (-97)⟩,
    ⟨0x1F7, 0x1F7, 1, .shift (-56)⟩, ⟨0x1F8, 0x21E, 2, .shift 1⟩, ⟨0x220, 0x220, 1, .shift (-130)⟩,
    ⟨0x222, 0x232, 2, .shift 1⟩, ⟨0x23A, 0x23A, 1, .shift 10795⟩, ⟨0x23B, 0x23B, 1, .shift 1⟩,
    ⟨0x23D, 0x23D, 1, .shift (-163)⟩, ⟨0x23E, 0x23E, 1, .shift 10792⟩, ⟨0x241, 0x241, 1, .shift 1⟩,
    ⟨0x243, 0x243, 1, .shift (-195)⟩, ⟨0x244, 0x244, 1, .shift 69⟩, ⟨0x245, 0x245, 1, .shift 71⟩,
    ⟨0x246, 0x24E, 2, .shift 1⟩, ⟨0x370, 0x372, 2, .shift 1⟩, ⟨0x376, 0x376, 1, .shift 1⟩,
    ⟨0x37F, 0x37F, 1, .shift 116⟩, ⟨0x386, 0x386, 1, .shift 38⟩, ⟨0x388, 0x38A, 1, .shift 37⟩,
    ⟨0x38C, 0x38C, 1, .shift 64⟩, ⟨0x38E, 0x38F, 1, .shift 63⟩, ⟨0x391, 0x3A1, 1, .shift 32⟩,
    ⟨0x3A3, 0x3AB, 1, .shift 32⟩, ⟨0x3CF, 0x3CF, 1, .shift 8⟩, ⟨0x3D8, 0x3EE, 2, .shift 1⟩,
    ⟨0x3F4, 0x3F4, 1, .shift (-60)⟩, ⟨0x3F7, 0x3F7, 1, .shift 1⟩, ⟨0x3F9, 0x3F9, 1, .shift (-7)⟩,
    ⟨0x3FA, 0x3FA, 1, .shift 1⟩, ⟨0x3FD, 0x3FF, 1, .shift (-130)⟩, ⟨0x400, 0x40F, 1, .shift 80⟩,
    ⟨0x410, 0x42F, 1, .shift 32⟩, ⟨0x460, 0x480, 2, .shift 1⟩, ⟨0x48A, 0x4BE, 2, .shift 1⟩,
    ⟨0x4C0, 0x4C0, 1, .shift 15⟩, ⟨0x4C1, 0x4CD, 2, .shift 1⟩, ⟨0x4D0, 0x52E, 2, .shift 1⟩,
    ⟨0x531, 0x556, 1, .shift 48⟩, ⟨0x10A0, 0x10C5, 1, .shift 7264⟩,
    ⟨0x10C7, 0x10C7, 1, .shift 7264⟩, ⟨0x10CD, 0x10CD, 1, .shift 7264⟩,
    ⟨0x13A0, 0x13EF, 1, .shift 38864⟩, ⟨0x13F0, 0x13F5, 1, .shift 8⟩,
    ⟨0x1C89, 0x1C89, 1, .shift 1⟩, ⟨0x1C90, 0x1CBA, 1, .shift (-3008)⟩,
    ⟨0x1CBD, 0x1CBF, 1, .shift (-3008)⟩, ⟨0x1E00, 0x1E94, 2, .shift 1⟩,
    ⟨0x1E9E, 0x1E9E, 1, .shift (-7615)⟩, ⟨0x1EA0, 0x1EFE, 2, .shift 1⟩,
    ⟨0x1F08, 0x1F0F, 1, .shift (-8)⟩, ⟨0x1F18, 0x1F1D, 1, .shift (-8)⟩,
    ⟨0x1F28, 0x1F2F, 1, .shift (-8)⟩, ⟨0x1F38, 0x1F3F, 1, .shift (-8)⟩,
    ⟨0x1F48, 0x1F4D, 1, .shift (-8)⟩, ⟨0x1F59, 0x1F5F, 2, .shift (-8)⟩,
    ⟨0x1F68, 0x1F6F, 1, .shift (-8)⟩, ⟨0x1F88, 0x1F8F, 1, .shift (-8)⟩,
    ⟨0x1F98, 0x1F9F, 1, .shift (-8)⟩, ⟨0x1FA8, 0x1FAF, 1, .shift (-8)⟩,
    ⟨0x1FB8, 0x1FB9, 1, .shift (-8)⟩, ⟨0x1FBA, 0x1FBB, 1, .shift (-74)⟩,
    ⟨0x1FBC, 0x1FBC, 1, .shift (-9)⟩, ⟨0x1FC8, 0x1FCB, 1, .shift (-86)⟩,
    ⟨0x1FCC, 0x1FCC, 1, .shift (-9)⟩, ⟨0x1FD8, 0x1FD9, 1, .shift (-8)⟩,
    ⟨0x1FDA, 0x1FDB, 1, .shift (-100)⟩, ⟨0x1FE8, 0x1FE9, 1, .shift (-8)⟩,
    ⟨0x1FEA, 0x1FEB, 1, .shift (-112)⟩, ⟨0x1FEC, 0x1FEC, 1, .shift (-7)⟩,
    ⟨0x1FF8, 0x1FF9, 1, .shift (-128)⟩, ⟨0x1FFA, 0x1FFB, 1, .shift (-126)⟩,
    ⟨0x1FFC, 0x1FFC, 1, .shift (-9)⟩, ⟨0x2126, 0x2126, 1, .shift (-7517)⟩,
    ⟨0x212A, 0x212A, 1, .shift (-8383)⟩, ⟨0x212B, 0x212B, 1, .shift (-8262)⟩,
    ⟨0x2132, 0x2132, 1, .shift 28⟩, ⟨0x2160, 0x216F, 1, .shift 16⟩, ⟨0x2183, 0x2183, 1, .shift 1⟩,
    ⟨0x24B6, 0x24CF, 1, .shift 26⟩, ⟨0x2C00, 0x2C2F, 1, .shift 48⟩, ⟨0x2C60, 0x2C60, 1, .shift 1⟩,
    ⟨0x2C62, 0x2C62, 1, .shift (-10743)⟩, ⟨0x2C63, 0x2C63, 1, .shift (-3814)⟩,
    ⟨0x2C64, 0x2C64, 1, .shift (-10727)⟩, ⟨0x2C67, 0x2C6B, 2, .shift 1⟩,
    ⟨0x2C6D, 0x2C6D, 1, .shift (-10780)⟩, ⟨0x2C6E, 0x2C6E, 1, .shift (-10749)⟩,
    ⟨0x2C6F, 0x2C6F, 1, .shift (-10783)⟩, ⟨0x2C70, 0x2C70, 1, .shift (-10782)⟩,
    ⟨0x2C72, 0x2C72, 1, .shift 1⟩, ⟨0x2C75, 0x2C75, 1, .shift 1⟩,
    ⟨0x2C7E, 0x2C7F, 1, .shift (-10815)⟩, ⟨0x2C80, 0x2CE2, 2, .shift 1⟩,
    ⟨0x2CEB, 0x2CED, 2, .shift 1⟩, ⟨0x2CF2, 0x2CF2, 1, .shift 1⟩, ⟨0xA640, 0xA66C, 2, .shift 1⟩,
    ⟨0xA680, 0xA69A, 2, .shift 1⟩, ⟨0xA722, 0xA72E, 2, .shift 1⟩, ⟨0xA732, 0xA76E, 2, .shift 1⟩,
    ⟨0xA779, 0xA77B, 2, .shift 1⟩, ⟨0xA77D, 0xA77D, 1, .shift (-35332)⟩,
    ⟨0xA77E, 0xA786, 2, .shift 1⟩, ⟨0xA78B, 0xA78B, 1, .shift 1⟩,
    ⟨0xA78D, 0xA78D, 1, .shift (-42280)⟩, ⟨0xA790, 0xA792, 2, .shift 1⟩,
    ⟨0xA796, 0xA7A8, 2, .shift 1⟩, ⟨0xA7AA, 0xA7AA, 1, .shift (-42308)⟩,
    ⟨0xA7AB, 0xA7AB, 1, .shift (-42319)⟩, ⟨0xA7AC, 0xA7AC, 1, .shift (-42315)⟩,
    ⟨0xA7AD, 0xA7AD, 1, .shift (-42305)⟩, ⟨0xA7AE, 0xA7AE, 1, .shift (-42308)⟩,
    ⟨0xA7B0, 0xA7B0, 1, .shift (-42258)⟩, ⟨0xA7B1, 0xA7B1, 1, .shift (-42282)⟩,
    ⟨0xA7B2, 0xA7B2, 1, .shift (-42261)⟩, ⟨0xA7B3, 0xA7B3, 1, .shift 928⟩,
    ⟨0xA7B4, 0xA7C2, 2, .shift 1⟩, ⟨0xA7C4, 0xA7C4, 1, .shift (-48)⟩,
    ⟨0xA7C5, 0xA7C5, 1, .shift (-42307)⟩, ⟨0xA7C6, 0xA7C6, 1, .shift (-35384)⟩,
    ⟨0xA7C7, 0xA7C9, 2, .shift 1⟩, ⟨0xA7CB, 0xA7CB, 1, .shift (-42343)⟩,
    ⟨0xA7CC, 0xA7DA, 2, .shift 1⟩, ⟨0xA7DC, 0xA7DC, 1, .shift (-42561)⟩,
    ⟨0xA7F5, 0xA7F5, 1, .shift 1⟩, ⟨0xFF21, 0xFF3A, 1, .shift 32⟩,
    ⟨0x10400, 0x10427, 1, .shift 40⟩, ⟨0x104B0, 0x104D3, 1, .shift 40⟩,
    ⟨0x10570, 0x1057A, 1, .shift 39⟩, ⟨0x1057C, 0x1058A, 1, .shift 39⟩,
    ⟨0x1058C, 0x10592, 1, .shift 39⟩, ⟨0x10594, 0x10595, 1, .shift 39⟩,
    ⟨0x10C80, 0x10CB2, 1, .shift 64⟩, ⟨0x10D50, 0x10D65, 1, .shift 32⟩,
    ⟨0x118A0, 0x118BF, 1, .shift 32⟩, ⟨0x16E40, 0x16E5F, 1, .shift 32⟩,
    ⟨0x16EA0, 0x16EB8, 1, .shift 27⟩, ⟨0x1E900, 0x1E921, 1, .shift 34⟩]

/-- The full mapping to upper case. -/
@[irreducible]
def upperMap : ScalarMap where
  runs := #[
    ⟨0x61, 0x7A, 1, .shift (-32)⟩, ⟨0xB5, 0xB5, 1, .shift 743⟩,
    ⟨0xDF, 0xDF, 1, .text [0x53, 0x53]⟩, ⟨0xE0, 0xF6, 1, .shift (-32)⟩,
    ⟨0xF8, 0xFE, 1, .shift (-32)⟩, ⟨0xFF, 0xFF, 1, .shift 121⟩, ⟨0x101, 0x12F, 2, .shift (-1)⟩,
    ⟨0x131, 0x131, 1, .shift (-232)⟩, ⟨0x133, 0x137, 2, .shift (-1)⟩,
    ⟨0x13A, 0x148, 2, .shift (-1)⟩, ⟨0x149, 0x149, 1, .text [0x2BC, 0x4E]⟩,
    ⟨0x14B, 0x177, 2, .shift (-1)⟩, ⟨0x17A, 0x17E, 2, .shift (-1)⟩,
    ⟨0x17F, 0x17F, 1, .shift (-300)⟩, ⟨0x180, 0x180, 1, .shift 195⟩,
    ⟨0x183, 0x185, 2, .shift (-1)⟩, ⟨0x188, 0x188, 1, .shift (-1)⟩, ⟨0x18C, 0x18C, 1, .shift (-1)⟩,
    ⟨0x192, 0x192, 1, .shift (-1)⟩, ⟨0x195, 0x195, 1, .shift 97⟩, ⟨0x199, 0x199, 1, .shift (-1)⟩,
    ⟨0x19A, 0x19A, 1, .shift 163⟩, ⟨0x19B, 0x19B, 1, .shift 42561⟩, ⟨0x19E, 0x19E, 1, .shift 130⟩,
    ⟨0x1A1, 0x1A5, 2, .shift (-1)⟩, ⟨0x1A8, 0x1A8, 1, .shift (-1)⟩, ⟨0x1AD, 0x1AD, 1, .shift (-1)⟩,
    ⟨0x1B0, 0x1B0, 1, .shift (-1)⟩, ⟨0x1B4, 0x1B6, 2, .shift (-1)⟩, ⟨0x1B9, 0x1B9, 1, .shift (-1)⟩,
    ⟨0x1BD, 0x1BD, 1, .shift (-1)⟩, ⟨0x1BF, 0x1BF, 1, .shift 56⟩, ⟨0x1C5, 0x1C5, 1, .shift (-1)⟩,
    ⟨0x1C6, 0x1C6, 1, .shift (-2)⟩, ⟨0x1C8, 0x1C8, 1, .shift (-1)⟩, ⟨0x1C9, 0x1C9, 1, .shift (-2)⟩,
    ⟨0x1CB, 0x1CB, 1, .shift (-1)⟩, ⟨0x1CC, 0x1CC, 1, .shift (-2)⟩, ⟨0x1CE, 0x1DC, 2, .shift (-1)⟩,
    ⟨0x1DD, 0x1DD, 1, .shift (-79)⟩, ⟨0x1DF, 0x1EF, 2, .shift (-1)⟩,
    ⟨0x1F0, 0x1F0, 1, .text [0x4A, 0x30C]⟩, ⟨0x1F2, 0x1F2, 1, .shift (-1)⟩,
    ⟨0x1F3, 0x1F3, 1, .shift (-2)⟩, ⟨0x1F5, 0x1F5, 1, .shift (-1)⟩, ⟨0x1F9, 0x21F, 2, .shift (-1)⟩,
    ⟨0x223, 0x233, 2, .shift (-1)⟩, ⟨0x23C, 0x23C, 1, .shift (-1)⟩,
    ⟨0x23F, 0x240, 1, .shift 10815⟩, ⟨0x242, 0x242, 1, .shift (-1)⟩,
    ⟨0x247, 0x24F, 2, .shift (-1)⟩, ⟨0x250, 0x250, 1, .shift 10783⟩,
    ⟨0x251, 0x251, 1, .shift 10780⟩, ⟨0x252, 0x252, 1, .shift 10782⟩,
    ⟨0x253, 0x253, 1, .shift (-210)⟩, ⟨0x254, 0x254, 1, .shift (-206)⟩,
    ⟨0x256, 0x257, 1, .shift (-205)⟩, ⟨0x259, 0x259, 1, .shift (-202)⟩,
    ⟨0x25B, 0x25B, 1, .shift (-203)⟩, ⟨0x25C, 0x25C, 1, .shift 42319⟩,
    ⟨0x260, 0x260, 1, .shift (-205)⟩, ⟨0x261, 0x261, 1, .shift 42315⟩,
    ⟨0x263, 0x263, 1, .shift (-207)⟩, ⟨0x264, 0x264, 1, .shift 42343⟩,
    ⟨0x265, 0x265, 1, .shift 42280⟩, ⟨0x266, 0x266, 1, .shift 42308⟩,
    ⟨0x268, 0x268, 1, .shift (-209)⟩, ⟨0x269, 0x269, 1, .shift (-211)⟩,
    ⟨0x26A, 0x26A, 1, .shift 42308⟩, ⟨0x26B, 0x26B, 1, .shift 10743⟩,
    ⟨0x26C, 0x26C, 1, .shift 42305⟩, ⟨0x26F, 0x26F, 1, .shift (-211)⟩,
    ⟨0x271, 0x271, 1, .shift 10749⟩, ⟨0x272, 0x272, 1, .shift (-213)⟩,
    ⟨0x275, 0x275, 1, .shift (-214)⟩, ⟨0x27D, 0x27D, 1, .shift 10727⟩,
    ⟨0x280, 0x280, 1, .shift (-218)⟩, ⟨0x282, 0x282, 1, .shift 42307⟩,
    ⟨0x283, 0x283, 1, .shift (-218)⟩, ⟨0x287, 0x287, 1, .shift 42282⟩,
    ⟨0x288, 0x288, 1, .shift (-218)⟩, ⟨0x289, 0x289, 1, .shift (-69)⟩,
    ⟨0x28A, 0x28B, 1, .shift (-217)⟩, ⟨0x28C, 0x28C, 1, .shift (-71)⟩,
    ⟨0x292, 0x292, 1, .shift (-219)⟩, ⟨0x29D, 0x29D, 1, .shift 42261⟩,
    ⟨0x29E, 0x29E, 1, .shift 42258⟩, ⟨0x345, 0x345, 1, .shift 84⟩, ⟨0x371, 0x373, 2, .shift (-1)⟩,
    ⟨0x377, 0x377, 1, .shift (-1)⟩, ⟨0x37B, 0x37D, 1, .shift 130⟩,
    ⟨0x390, 0x390, 1, .text [0x399, 0x308, 0x301]⟩, ⟨0x3AC, 0x3AC, 1, .shift (-38)⟩,
    ⟨0x3AD, 0x3AF, 1, .shift (-37)⟩, ⟨0x3B0, 0x3B0, 1, .text [0x3A5, 0x308, 0x301]⟩,
    ⟨0x3B1, 0x3C1, 1, .shift (-32)⟩, ⟨0x3C2, 0x3C2, 1, .shift (-31)⟩,
    ⟨0x3C3, 0x3CB, 1, .shift (-32)⟩, ⟨0x3CC, 0x3CC, 1, .shift (-64)⟩,
    ⟨0x3CD, 0x3CE, 1, .shift (-63)⟩, ⟨0x3D0, 0x3D0, 1, .shift (-62)⟩,
    ⟨0x3D1, 0x3D1, 1, .shift (-57)⟩, ⟨0x3D5, 0x3D5, 1, .shift (-47)⟩,
    ⟨0x3D6, 0x3D6, 1, .shift (-54)⟩, ⟨0x3D7, 0x3D7, 1, .shift (-8)⟩,
    ⟨0x3D9, 0x3EF, 2, .shift (-1)⟩, ⟨0x3F0, 0x3F0, 1, .shift (-86)⟩,
    ⟨0x3F1, 0x3F1, 1, .shift (-80)⟩, ⟨0x3F2, 0x3F2, 1, .shift 7⟩, ⟨0x3F3, 0x3F3, 1, .shift (-116)⟩,
    ⟨0x3F5, 0x3F5, 1, .shift (-96)⟩, ⟨0x3F8, 0x3F8, 1, .shift (-1)⟩,
    ⟨0x3FB, 0x3FB, 1, .shift (-1)⟩, ⟨0x430, 0x44F, 1, .shift (-32)⟩,
    ⟨0x450, 0x45F, 1, .shift (-80)⟩, ⟨0x461, 0x481, 2, .shift (-1)⟩,
    ⟨0x48B, 0x4BF, 2, .shift (-1)⟩, ⟨0x4C2, 0x4CE, 2, .shift (-1)⟩,
    ⟨0x4CF, 0x4CF, 1, .shift (-15)⟩, ⟨0x4D1, 0x52F, 2, .shift (-1)⟩,
    ⟨0x561, 0x586, 1, .shift (-48)⟩, ⟨0x587, 0x587, 1, .text [0x535, 0x552]⟩,
    ⟨0x10D0, 0x10FA, 1, .shift 3008⟩, ⟨0x10FD, 0x10FF, 1, .shift 3008⟩,
    ⟨0x13F8, 0x13FD, 1, .shift (-8)⟩, ⟨0x1C80, 0x1C80, 1, .shift (-6254)⟩,
    ⟨0x1C81, 0x1C81, 1, .shift (-6253)⟩, ⟨0x1C82, 0x1C82, 1, .shift (-6244)⟩,
    ⟨0x1C83, 0x1C84, 1, .shift (-6242)⟩, ⟨0x1C85, 0x1C85, 1, .shift (-6243)⟩,
    ⟨0x1C86, 0x1C86, 1, .shift (-6236)⟩, ⟨0x1C87, 0x1C87, 1, .shift (-6181)⟩,
    ⟨0x1C88, 0x1C88, 1, .shift 35266⟩, ⟨0x1C8A, 0x1C8A, 1, .shift (-1)⟩,
    ⟨0x1D79, 0x1D79, 1, .shift 35332⟩, ⟨0x1D7D, 0x1D7D, 1, .shift 3814⟩,
    ⟨0x1D8E, 0x1D8E, 1, .shift 35384⟩, ⟨0x1E01, 0x1E95, 2, .shift (-1)⟩,
    ⟨0x1E96, 0x1E96, 1, .text [0x48, 0x331]⟩, ⟨0x1E97, 0x1E97, 1, .text [0x54, 0x308]⟩,
    ⟨0x1E98, 0x1E98, 1, .text [0x57, 0x30A]⟩, ⟨0x1E99, 0x1E99, 1, .text [0x59, 0x30A]⟩,
    ⟨0x1E9A, 0x1E9A, 1, .text [0x41, 0x2BE]⟩, ⟨0x1E9B, 0x1E9B, 1, .shift (-59)⟩,
    ⟨0x1EA1, 0x1EFF, 2, .shift (-1)⟩, ⟨0x1F00, 0x1F07, 1, .shift 8⟩, ⟨0x1F10, 0x1F15, 1, .shift 8⟩,
    ⟨0x1F20, 0x1F27, 1, .shift 8⟩, ⟨0x1F30, 0x1F37, 1, .shift 8⟩, ⟨0x1F40, 0x1F45, 1, .shift 8⟩,
    ⟨0x1F50, 0x1F50, 1, .text [0x3A5, 0x313]⟩, ⟨0x1F51, 0x1F51, 1, .shift 8⟩,
    ⟨0x1F52, 0x1F52, 1, .text [0x3A5, 0x313, 0x300]⟩, ⟨0x1F53, 0x1F53, 1, .shift 8⟩,
    ⟨0x1F54, 0x1F54, 1, .text [0x3A5, 0x313, 0x301]⟩, ⟨0x1F55, 0x1F55, 1, .shift 8⟩,
    ⟨0x1F56, 0x1F56, 1, .text [0x3A5, 0x313, 0x342]⟩, ⟨0x1F57, 0x1F57, 1, .shift 8⟩,
    ⟨0x1F60, 0x1F67, 1, .shift 8⟩,
    ⟨0x1F70, 0x1F71, 1, .shift 74⟩, ⟨0x1F72, 0x1F75, 1, .shift 86⟩,
    ⟨0x1F76, 0x1F77, 1, .shift 100⟩, ⟨0x1F78, 0x1F79, 1, .shift 128⟩,
    ⟨0x1F7A, 0x1F7B, 1, .shift 112⟩, ⟨0x1F7C, 0x1F7D, 1, .shift 126⟩,
    ⟨0x1F80, 0x1F80, 1, .text [0x1F08, 0x399]⟩, ⟨0x1F81, 0x1F81, 1, .text [0x1F09, 0x399]⟩,
    ⟨0x1F82, 0x1F82, 1, .text [0x1F0A, 0x399]⟩, ⟨0x1F83, 0x1F83, 1, .text [0x1F0B, 0x399]⟩,
    ⟨0x1F84, 0x1F84, 1, .text [0x1F0C, 0x399]⟩, ⟨0x1F85, 0x1F85, 1, .text [0x1F0D, 0x399]⟩,
    ⟨0x1F86, 0x1F86, 1, .text [0x1F0E, 0x399]⟩, ⟨0x1F87, 0x1F87, 1, .text [0x1F0F, 0x399]⟩,
    ⟨0x1F88, 0x1F88, 1, .text [0x1F08, 0x399]⟩, ⟨0x1F89, 0x1F89, 1, .text [0x1F09, 0x399]⟩,
    ⟨0x1F8A, 0x1F8A, 1, .text [0x1F0A, 0x399]⟩, ⟨0x1F8B, 0x1F8B, 1, .text [0x1F0B, 0x399]⟩,
    ⟨0x1F8C, 0x1F8C, 1, .text [0x1F0C, 0x399]⟩, ⟨0x1F8D, 0x1F8D, 1, .text [0x1F0D, 0x399]⟩,
    ⟨0x1F8E, 0x1F8E, 1, .text [0x1F0E, 0x399]⟩, ⟨0x1F8F, 0x1F8F, 1, .text [0x1F0F, 0x399]⟩,
    ⟨0x1F90, 0x1F90, 1, .text [0x1F28, 0x399]⟩, ⟨0x1F91, 0x1F91, 1, .text [0x1F29, 0x399]⟩,
    ⟨0x1F92, 0x1F92, 1, .text [0x1F2A, 0x399]⟩, ⟨0x1F93, 0x1F93, 1, .text [0x1F2B, 0x399]⟩,
    ⟨0x1F94, 0x1F94, 1, .text [0x1F2C, 0x399]⟩, ⟨0x1F95, 0x1F95, 1, .text [0x1F2D, 0x399]⟩,
    ⟨0x1F96, 0x1F96, 1, .text [0x1F2E, 0x399]⟩, ⟨0x1F97, 0x1F97, 1, .text [0x1F2F, 0x399]⟩,
    ⟨0x1F98, 0x1F98, 1, .text [0x1F28, 0x399]⟩, ⟨0x1F99, 0x1F99, 1, .text [0x1F29, 0x399]⟩,
    ⟨0x1F9A, 0x1F9A, 1, .text [0x1F2A, 0x399]⟩, ⟨0x1F9B, 0x1F9B, 1, .text [0x1F2B, 0x399]⟩,
    ⟨0x1F9C, 0x1F9C, 1, .text [0x1F2C, 0x399]⟩, ⟨0x1F9D, 0x1F9D, 1, .text [0x1F2D, 0x399]⟩,
    ⟨0x1F9E, 0x1F9E, 1, .text [0x1F2E, 0x399]⟩, ⟨0x1F9F, 0x1F9F, 1, .text [0x1F2F, 0x399]⟩,
    ⟨0x1FA0, 0x1FA0, 1, .text [0x1F68, 0x399]⟩, ⟨0x1FA1, 0x1FA1, 1, .text [0x1F69, 0x399]⟩,
    ⟨0x1FA2, 0x1FA2, 1, .text [0x1F6A, 0x399]⟩, ⟨0x1FA3, 0x1FA3, 1, .text [0x1F6B, 0x399]⟩,
    ⟨0x1FA4, 0x1FA4, 1, .text [0x1F6C, 0x399]⟩, ⟨0x1FA5, 0x1FA5, 1, .text [0x1F6D, 0x399]⟩,
    ⟨0x1FA6, 0x1FA6, 1, .text [0x1F6E, 0x399]⟩, ⟨0x1FA7, 0x1FA7, 1, .text [0x1F6F, 0x399]⟩,
    ⟨0x1FA8, 0x1FA8, 1, .text [0x1F68, 0x399]⟩, ⟨0x1FA9, 0x1FA9, 1, .text [0x1F69, 0x399]⟩,
    ⟨0x1FAA, 0x1FAA, 1, .text [0x1F6A, 0x399]⟩, ⟨0x1FAB, 0x1FAB, 1, .text [0x1F6B, 0x399]⟩,
    ⟨0x1FAC, 0x1FAC, 1, .text [0x1F6C, 0x399]⟩, ⟨0x1FAD, 0x1FAD, 1, .text [0x1F6D, 0x399]⟩,
    ⟨0x1FAE, 0x1FAE, 1, .text [0x1F6E, 0x399]⟩, ⟨0x1FAF, 0x1FAF, 1, .text [0x1F6F, 0x399]⟩,
    ⟨0x1FB0, 0x1FB1, 1, .shift 8⟩, ⟨0x1FB2, 0x1FB2, 1, .text [0x1FBA, 0x399]⟩,
    ⟨0x1FB3, 0x1FB3, 1, .text [0x391, 0x399]⟩, ⟨0x1FB4, 0x1FB4, 1, .text [0x386, 0x399]⟩,
    ⟨0x1FB6, 0x1FB6, 1, .text [0x391, 0x342]⟩, ⟨0x1FB7, 0x1FB7, 1, .text [0x391, 0x342, 0x399]⟩,
    ⟨0x1FBC, 0x1FBC, 1, .text [0x391, 0x399]⟩, ⟨0x1FBE, 0x1FBE, 1, .shift (-7205)⟩,
    ⟨0x1FC2, 0x1FC2, 1, .text [0x1FCA, 0x399]⟩, ⟨0x1FC3, 0x1FC3, 1, .text [0x397, 0x399]⟩,
    ⟨0x1FC4, 0x1FC4, 1, .text [0x389, 0x399]⟩, ⟨0x1FC6, 0x1FC6, 1, .text [0x397, 0x342]⟩,
    ⟨0x1FC7, 0x1FC7, 1, .text [0x397, 0x342, 0x399]⟩, ⟨0x1FCC, 0x1FCC, 1, .text [0x397, 0x399]⟩,
    ⟨0x1FD0, 0x1FD1, 1, .shift 8⟩, ⟨0x1FD2, 0x1FD2, 1, .text [0x399, 0x308, 0x300]⟩,
    ⟨0x1FD3, 0x1FD3, 1, .text [0x399, 0x308, 0x301]⟩, ⟨0x1FD6, 0x1FD6, 1, .text [0x399, 0x342]⟩,
    ⟨0x1FD7, 0x1FD7, 1, .text [0x399, 0x308, 0x342]⟩, ⟨0x1FE0, 0x1FE1, 1, .shift 8⟩,
    ⟨0x1FE2, 0x1FE2, 1, .text [0x3A5, 0x308, 0x300]⟩,
    ⟨0x1FE3, 0x1FE3, 1, .text [0x3A5, 0x308, 0x301]⟩, ⟨0x1FE4, 0x1FE4, 1, .text [0x3A1, 0x313]⟩,
    ⟨0x1FE5, 0x1FE5, 1, .shift 7⟩, ⟨0x1FE6, 0x1FE6, 1, .text [0x3A5, 0x342]⟩,
    ⟨0x1FE7, 0x1FE7, 1, .text [0x3A5, 0x308, 0x342]⟩, ⟨0x1FF2, 0x1FF2, 1, .text [0x1FFA, 0x399]⟩,
    ⟨0x1FF3, 0x1FF3, 1, .text [0x3A9, 0x399]⟩, ⟨0x1FF4, 0x1FF4, 1, .text [0x38F, 0x399]⟩,
    ⟨0x1FF6, 0x1FF6, 1, .text [0x3A9, 0x342]⟩, ⟨0x1FF7, 0x1FF7, 1, .text [0x3A9, 0x342, 0x399]⟩,
    ⟨0x1FFC, 0x1FFC, 1, .text [0x3A9, 0x399]⟩, ⟨0x214E, 0x214E, 1, .shift (-28)⟩,
    ⟨0x2170, 0x217F, 1, .shift (-16)⟩, ⟨0x2184, 0x2184, 1, .shift (-1)⟩,
    ⟨0x24D0, 0x24E9, 1, .shift (-26)⟩, ⟨0x2C30, 0x2C5F, 1, .shift (-48)⟩,
    ⟨0x2C61, 0x2C61, 1, .shift (-1)⟩, ⟨0x2C65, 0x2C65, 1, .shift (-10795)⟩,
    ⟨0x2C66, 0x2C66, 1, .shift (-10792)⟩, ⟨0x2C68, 0x2C6C, 2, .shift (-1)⟩,
    ⟨0x2C73, 0x2C73, 1, .shift (-1)⟩, ⟨0x2C76, 0x2C76, 1, .shift (-1)⟩,
    ⟨0x2C81, 0x2CE3, 2, .shift (-1)⟩, ⟨0x2CEC, 0x2CEE, 2, .shift (-1)⟩,
    ⟨0x2CF3, 0x2CF3, 1, .shift (-1)⟩, ⟨0x2D00, 0x2D25, 1, .shift (-7264)⟩,
    ⟨0x2D27, 0x2D27, 1, .shift (-7264)⟩, ⟨0x2D2D, 0x2D2D, 1, .shift (-7264)⟩,
    ⟨0xA641, 0xA66D, 2, .shift (-1)⟩, ⟨0xA681, 0xA69B, 2, .shift (-1)⟩,
    ⟨0xA723, 0xA72F, 2, .shift (-1)⟩, ⟨0xA733, 0xA76F, 2, .shift (-1)⟩,
    ⟨0xA77A, 0xA77C, 2, .shift (-1)⟩, ⟨0xA77F, 0xA787, 2, .shift (-1)⟩,
    ⟨0xA78C, 0xA78C, 1, .shift (-1)⟩, ⟨0xA791, 0xA793, 2, .shift (-1)⟩,
    ⟨0xA794, 0xA794, 1, .shift 48⟩, ⟨0xA797, 0xA7A9, 2, .shift (-1)⟩,
    ⟨0xA7B5, 0xA7C3, 2, .shift (-1)⟩, ⟨0xA7C8, 0xA7CA, 2, .shift (-1)⟩,
    ⟨0xA7CD, 0xA7DB, 2, .shift (-1)⟩, ⟨0xA7F6, 0xA7F6, 1, .shift (-1)⟩,
    ⟨0xAB53, 0xAB53, 1, .shift (-928)⟩, ⟨0xAB70, 0xABBF, 1, .shift (-38864)⟩,
    ⟨0xFB00, 0xFB00, 1, .text [0x46, 0x46]⟩, ⟨0xFB01, 0xFB01, 1, .text [0x46, 0x49]⟩,
    ⟨0xFB02, 0xFB02, 1, .text [0x46, 0x4C]⟩, ⟨0xFB03, 0xFB03, 1, .text [0x46, 0x46, 0x49]⟩,
    ⟨0xFB04, 0xFB04, 1, .text [0x46, 0x46, 0x4C]⟩, ⟨0xFB05, 0xFB05, 1, .text [0x53, 0x54]⟩,
    ⟨0xFB06, 0xFB06, 1, .text [0x53, 0x54]⟩, ⟨0xFB13, 0xFB13, 1, .text [0x544, 0x546]⟩,
    ⟨0xFB14, 0xFB14, 1, .text [0x544, 0x535]⟩, ⟨0xFB15, 0xFB15, 1, .text [0x544, 0x53B]⟩,
    ⟨0xFB16, 0xFB16, 1, .text [0x54E, 0x546]⟩, ⟨0xFB17, 0xFB17, 1, .text [0x544, 0x53D]⟩,
    ⟨0xFF41, 0xFF5A, 1, .shift (-32)⟩, ⟨0x10428, 0x1044F, 1, .shift (-40)⟩,
    ⟨0x104D8, 0x104FB, 1, .shift (-40)⟩, ⟨0x10597, 0x105A1, 1, .shift (-39)⟩,
    ⟨0x105A3, 0x105B1, 1, .shift (-39)⟩, ⟨0x105B3, 0x105B9, 1, .shift (-39)⟩,
    ⟨0x105BB, 0x105BC, 1, .shift (-39)⟩, ⟨0x10CC0, 0x10CF2, 1, .shift (-64)⟩,
    ⟨0x10D70, 0x10D85, 1, .shift (-32)⟩, ⟨0x118C0, 0x118DF, 1, .shift (-32)⟩,
    ⟨0x16E60, 0x16E7F, 1, .shift (-32)⟩, ⟨0x16EBB, 0x16ED3, 1, .shift (-27)⟩,
    ⟨0x1E922, 0x1E943, 1, .shift (-34)⟩]

/-- The full case folding. -/
@[irreducible]
def foldMap : ScalarMap where
  runs := #[
    ⟨0x41, 0x5A, 1, .shift 32⟩, ⟨0xB5, 0xB5, 1, .shift 775⟩, ⟨0xC0, 0xD6, 1, .shift 32⟩,
    ⟨0xD8, 0xDE, 1, .shift 32⟩, ⟨0xDF, 0xDF, 1, .text [0x73, 0x73]⟩, ⟨0x100, 0x12E, 2, .shift 1⟩,
    ⟨0x130, 0x130, 1, .text [0x69, 0x307]⟩, ⟨0x132, 0x136, 2, .shift 1⟩,
    ⟨0x139, 0x147, 2, .shift 1⟩, ⟨0x149, 0x149, 1, .text [0x2BC, 0x6E]⟩,
    ⟨0x14A, 0x176, 2, .shift 1⟩, ⟨0x178, 0x178, 1, .shift (-121)⟩, ⟨0x179, 0x17D, 2, .shift 1⟩,
    ⟨0x17F, 0x17F, 1, .shift (-268)⟩, ⟨0x181, 0x181, 1, .shift 210⟩, ⟨0x182, 0x184, 2, .shift 1⟩,
    ⟨0x186, 0x186, 1, .shift 206⟩, ⟨0x187, 0x187, 1, .shift 1⟩, ⟨0x189, 0x18A, 1, .shift 205⟩,
    ⟨0x18B, 0x18B, 1, .shift 1⟩, ⟨0x18E, 0x18E, 1, .shift 79⟩, ⟨0x18F, 0x18F, 1, .shift 202⟩,
    ⟨0x190, 0x190, 1, .shift 203⟩, ⟨0x191, 0x191, 1, .shift 1⟩, ⟨0x193, 0x193, 1, .shift 205⟩,
    ⟨0x194, 0x194, 1, .shift 207⟩, ⟨0x196, 0x196, 1, .shift 211⟩, ⟨0x197, 0x197, 1, .shift 209⟩,
    ⟨0x198, 0x198, 1, .shift 1⟩, ⟨0x19C, 0x19C, 1, .shift 211⟩, ⟨0x19D, 0x19D, 1, .shift 213⟩,
    ⟨0x19F, 0x19F, 1, .shift 214⟩, ⟨0x1A0, 0x1A4, 2, .shift 1⟩, ⟨0x1A6, 0x1A6, 1, .shift 218⟩,
    ⟨0x1A7, 0x1A7, 1, .shift 1⟩, ⟨0x1A9, 0x1A9, 1, .shift 218⟩, ⟨0x1AC, 0x1AC, 1, .shift 1⟩,
    ⟨0x1AE, 0x1AE, 1, .shift 218⟩, ⟨0x1AF, 0x1AF, 1, .shift 1⟩, ⟨0x1B1, 0x1B2, 1, .shift 217⟩,
    ⟨0x1B3, 0x1B5, 2, .shift 1⟩, ⟨0x1B7, 0x1B7, 1, .shift 219⟩, ⟨0x1B8, 0x1B8, 1, .shift 1⟩,
    ⟨0x1BC, 0x1BC, 1, .shift 1⟩, ⟨0x1C4, 0x1C4, 1, .shift 2⟩, ⟨0x1C5, 0x1C5, 1, .shift 1⟩,
    ⟨0x1C7, 0x1C7, 1, .shift 2⟩, ⟨0x1C8, 0x1C8, 1, .shift 1⟩, ⟨0x1CA, 0x1CA, 1, .shift 2⟩,
    ⟨0x1CB, 0x1DB, 2, .shift 1⟩, ⟨0x1DE, 0x1EE, 2, .shift 1⟩,
    ⟨0x1F0, 0x1F0, 1, .text [0x6A, 0x30C]⟩, ⟨0x1F1, 0x1F1, 1, .shift 2⟩,
    ⟨0x1F2, 0x1F4, 2, .shift 1⟩, ⟨0x1F6, 0x1F6, 1, .shift (-97)⟩, ⟨0x1F7, 0x1F7, 1, .shift (-56)⟩,
    ⟨0x1F8, 0x21E, 2, .shift 1⟩, ⟨0x220, 0x220, 1, .shift (-130)⟩, ⟨0x222, 0x232, 2, .shift 1⟩,
    ⟨0x23A, 0x23A, 1, .shift 10795⟩, ⟨0x23B, 0x23B, 1, .shift 1⟩, ⟨0x23D, 0x23D, 1, .shift (-163)⟩,
    ⟨0x23E, 0x23E, 1, .shift 10792⟩, ⟨0x241, 0x241, 1, .shift 1⟩, ⟨0x243, 0x243, 1, .shift (-195)⟩,
    ⟨0x244, 0x244, 1, .shift 69⟩, ⟨0x245, 0x245, 1, .shift 71⟩, ⟨0x246, 0x24E, 2, .shift 1⟩,
    ⟨0x345, 0x345, 1, .shift 116⟩, ⟨0x370, 0x372, 2, .shift 1⟩, ⟨0x376, 0x376, 1, .shift 1⟩,
    ⟨0x37F, 0x37F, 1, .shift 116⟩, ⟨0x386, 0x386, 1, .shift 38⟩, ⟨0x388, 0x38A, 1, .shift 37⟩,
    ⟨0x38C, 0x38C, 1, .shift 64⟩, ⟨0x38E, 0x38F, 1, .shift 63⟩,
    ⟨0x390, 0x390, 1, .text [0x3B9, 0x308, 0x301]⟩, ⟨0x391, 0x3A1, 1, .shift 32⟩,
    ⟨0x3A3, 0x3AB, 1, .shift 32⟩, ⟨0x3B0, 0x3B0, 1, .text [0x3C5, 0x308, 0x301]⟩,
    ⟨0x3C2, 0x3C2, 1, .shift 1⟩, ⟨0x3CF, 0x3CF, 1, .shift 8⟩, ⟨0x3D0, 0x3D0, 1, .shift (-30)⟩,
    ⟨0x3D1, 0x3D1, 1, .shift (-25)⟩, ⟨0x3D5, 0x3D5, 1, .shift (-15)⟩,
    ⟨0x3D6, 0x3D6, 1, .shift (-22)⟩, ⟨0x3D8, 0x3EE, 2, .shift 1⟩, ⟨0x3F0, 0x3F0, 1, .shift (-54)⟩,
    ⟨0x3F1, 0x3F1, 1, .shift (-48)⟩, ⟨0x3F4, 0x3F4, 1, .shift (-60)⟩,
    ⟨0x3F5, 0x3F5, 1, .shift (-64)⟩, ⟨0x3F7, 0x3F7, 1, .shift 1⟩, ⟨0x3F9, 0x3F9, 1, .shift (-7)⟩,
    ⟨0x3FA, 0x3FA, 1, .shift 1⟩, ⟨0x3FD, 0x3FF, 1, .shift (-130)⟩, ⟨0x400, 0x40F, 1, .shift 80⟩,
    ⟨0x410, 0x42F, 1, .shift 32⟩, ⟨0x460, 0x480, 2, .shift 1⟩, ⟨0x48A, 0x4BE, 2, .shift 1⟩,
    ⟨0x4C0, 0x4C0, 1, .shift 15⟩, ⟨0x4C1, 0x4CD, 2, .shift 1⟩, ⟨0x4D0, 0x52E, 2, .shift 1⟩,
    ⟨0x531, 0x556, 1, .shift 48⟩, ⟨0x587, 0x587, 1, .text [0x565, 0x582]⟩,
    ⟨0x10A0, 0x10C5, 1, .shift 7264⟩, ⟨0x10C7, 0x10C7, 1, .shift 7264⟩,
    ⟨0x10CD, 0x10CD, 1, .shift 7264⟩, ⟨0x13F8, 0x13FD, 1, .shift (-8)⟩,
    ⟨0x1C80, 0x1C80, 1, .shift (-6222)⟩, ⟨0x1C81, 0x1C81, 1, .shift (-6221)⟩,
    ⟨0x1C82, 0x1C82, 1, .shift (-6212)⟩, ⟨0x1C83, 0x1C84, 1, .shift (-6210)⟩,
    ⟨0x1C85, 0x1C85, 1, .shift (-6211)⟩, ⟨0x1C86, 0x1C86, 1, .shift (-6204)⟩,
    ⟨0x1C87, 0x1C87, 1, .shift (-6180)⟩, ⟨0x1C88, 0x1C88, 1, .shift 35267⟩,
    ⟨0x1C89, 0x1C89, 1, .shift 1⟩, ⟨0x1C90, 0x1CBA, 1, .shift (-3008)⟩,
    ⟨0x1CBD, 0x1CBF, 1, .shift (-3008)⟩, ⟨0x1E00, 0x1E94, 2, .shift 1⟩,
    ⟨0x1E96, 0x1E96, 1, .text [0x68, 0x331]⟩, ⟨0x1E97, 0x1E97, 1, .text [0x74, 0x308]⟩,
    ⟨0x1E98, 0x1E98, 1, .text [0x77, 0x30A]⟩, ⟨0x1E99, 0x1E99, 1, .text [0x79, 0x30A]⟩,
    ⟨0x1E9A, 0x1E9A, 1, .text [0x61, 0x2BE]⟩, ⟨0x1E9B, 0x1E9B, 1, .shift (-58)⟩,
    ⟨0x1E9E, 0x1E9E, 1, .text [0x73, 0x73]⟩, ⟨0x1EA0, 0x1EFE, 2, .shift 1⟩,
    ⟨0x1F08, 0x1F0F, 1, .shift (-8)⟩, ⟨0x1F18, 0x1F1D, 1, .shift (-8)⟩,
    ⟨0x1F28, 0x1F2F, 1, .shift (-8)⟩, ⟨0x1F38, 0x1F3F, 1, .shift (-8)⟩,
    ⟨0x1F48, 0x1F4D, 1, .shift (-8)⟩, ⟨0x1F50, 0x1F50, 1, .text [0x3C5, 0x313]⟩,
    ⟨0x1F52, 0x1F52, 1, .text [0x3C5, 0x313, 0x300]⟩,
    ⟨0x1F54, 0x1F54, 1, .text [0x3C5, 0x313, 0x301]⟩,
    ⟨0x1F56, 0x1F56, 1, .text [0x3C5, 0x313, 0x342]⟩, ⟨0x1F59, 0x1F5F, 2, .shift (-8)⟩,
    ⟨0x1F68, 0x1F6F, 1, .shift (-8)⟩, ⟨0x1F80, 0x1F80, 1, .text [0x1F00, 0x3B9]⟩,
    ⟨0x1F81, 0x1F81, 1, .text [0x1F01, 0x3B9]⟩, ⟨0x1F82, 0x1F82, 1, .text [0x1F02, 0x3B9]⟩,
    ⟨0x1F83, 0x1F83, 1, .text [0x1F03, 0x3B9]⟩, ⟨0x1F84, 0x1F84, 1, .text [0x1F04, 0x3B9]⟩,
    ⟨0x1F85, 0x1F85, 1, .text [0x1F05, 0x3B9]⟩, ⟨0x1F86, 0x1F86, 1, .text [0x1F06, 0x3B9]⟩,
    ⟨0x1F87, 0x1F87, 1, .text [0x1F07, 0x3B9]⟩, ⟨0x1F88, 0x1F88, 1, .text [0x1F00, 0x3B9]⟩,
    ⟨0x1F89, 0x1F89, 1, .text [0x1F01, 0x3B9]⟩, ⟨0x1F8A, 0x1F8A, 1, .text [0x1F02, 0x3B9]⟩,
    ⟨0x1F8B, 0x1F8B, 1, .text [0x1F03, 0x3B9]⟩, ⟨0x1F8C, 0x1F8C, 1, .text [0x1F04, 0x3B9]⟩,
    ⟨0x1F8D, 0x1F8D, 1, .text [0x1F05, 0x3B9]⟩, ⟨0x1F8E, 0x1F8E, 1, .text [0x1F06, 0x3B9]⟩,
    ⟨0x1F8F, 0x1F8F, 1, .text [0x1F07, 0x3B9]⟩, ⟨0x1F90, 0x1F90, 1, .text [0x1F20, 0x3B9]⟩,
    ⟨0x1F91, 0x1F91, 1, .text [0x1F21, 0x3B9]⟩, ⟨0x1F92, 0x1F92, 1, .text [0x1F22, 0x3B9]⟩,
    ⟨0x1F93, 0x1F93, 1, .text [0x1F23, 0x3B9]⟩, ⟨0x1F94, 0x1F94, 1, .text [0x1F24, 0x3B9]⟩,
    ⟨0x1F95, 0x1F95, 1, .text [0x1F25, 0x3B9]⟩, ⟨0x1F96, 0x1F96, 1, .text [0x1F26, 0x3B9]⟩,
    ⟨0x1F97, 0x1F97, 1, .text [0x1F27, 0x3B9]⟩, ⟨0x1F98, 0x1F98, 1, .text [0x1F20, 0x3B9]⟩,
    ⟨0x1F99, 0x1F99, 1, .text [0x1F21, 0x3B9]⟩, ⟨0x1F9A, 0x1F9A, 1, .text [0x1F22, 0x3B9]⟩,
    ⟨0x1F9B, 0x1F9B, 1, .text [0x1F23, 0x3B9]⟩, ⟨0x1F9C, 0x1F9C, 1, .text [0x1F24, 0x3B9]⟩,
    ⟨0x1F9D, 0x1F9D, 1, .text [0x1F25, 0x3B9]⟩, ⟨0x1F9E, 0x1F9E, 1, .text [0x1F26, 0x3B9]⟩,
    ⟨0x1F9F, 0x1F9F, 1, .text [0x1F27, 0x3B9]⟩, ⟨0x1FA0, 0x1FA0, 1, .text [0x1F60, 0x3B9]⟩,
    ⟨0x1FA1, 0x1FA1, 1, .text [0x1F61, 0x3B9]⟩, ⟨0x1FA2, 0x1FA2, 1, .text [0x1F62, 0x3B9]⟩,
    ⟨0x1FA3, 0x1FA3, 1, .text [0x1F63, 0x3B9]⟩, ⟨0x1FA4, 0x1FA4, 1, .text [0x1F64, 0x3B9]⟩,
    ⟨0x1FA5, 0x1FA5, 1, .text [0x1F65, 0x3B9]⟩, ⟨0x1FA6, 0x1FA6, 1, .text [0x1F66, 0x3B9]⟩,
    ⟨0x1FA7, 0x1FA7, 1, .text [0x1F67, 0x3B9]⟩, ⟨0x1FA8, 0x1FA8, 1, .text [0x1F60, 0x3B9]⟩,
    ⟨0x1FA9, 0x1FA9, 1, .text [0x1F61, 0x3B9]⟩, ⟨0x1FAA, 0x1FAA, 1, .text [0x1F62, 0x3B9]⟩,
    ⟨0x1FAB, 0x1FAB, 1, .text [0x1F63, 0x3B9]⟩, ⟨0x1FAC, 0x1FAC, 1, .text [0x1F64, 0x3B9]⟩,
    ⟨0x1FAD, 0x1FAD, 1, .text [0x1F65, 0x3B9]⟩, ⟨0x1FAE, 0x1FAE, 1, .text [0x1F66, 0x3B9]⟩,
    ⟨0x1FAF, 0x1FAF, 1, .text [0x1F67, 0x3B9]⟩, ⟨0x1FB2, 0x1FB2, 1, .text [0x1F70, 0x3B9]⟩,
    ⟨0x1FB3, 0x1FB3, 1, .text [0x3B1, 0x3B9]⟩, ⟨0x1FB4, 0x1FB4, 1, .text [0x3AC, 0x3B9]⟩,
    ⟨0x1FB6, 0x1FB6, 1, .text [0x3B1, 0x342]⟩, ⟨0x1FB7, 0x1FB7, 1, .text [0x3B1, 0x342, 0x3B9]⟩,
    ⟨0x1FB8, 0x1FB9, 1, .shift (-8)⟩, ⟨0x1FBA, 0x1FBB, 1, .shift (-74)⟩,
    ⟨0x1FBC, 0x1FBC, 1, .text [0x3B1, 0x3B9]⟩, ⟨0x1FBE, 0x1FBE, 1, .shift (-7173)⟩,
    ⟨0x1FC2, 0x1FC2, 1, .text [0x1F74, 0x3B9]⟩, ⟨0x1FC3, 0x1FC3, 1, .text [0x3B7, 0x3B9]⟩,
    ⟨0x1FC4, 0x1FC4, 1, .text [0x3AE, 0x3B9]⟩, ⟨0x1FC6, 0x1FC6, 1, .text [0x3B7, 0x342]⟩,
    ⟨0x1FC7, 0x1FC7, 1, .text [0x3B7, 0x342, 0x3B9]⟩, ⟨0x1FC8, 0x1FCB, 1, .shift (-86)⟩,
    ⟨0x1FCC, 0x1FCC, 1, .text [0x3B7, 0x3B9]⟩, ⟨0x1FD2, 0x1FD2, 1, .text [0x3B9, 0x308, 0x300]⟩,
    ⟨0x1FD3, 0x1FD3, 1, .text [0x3B9, 0x308, 0x301]⟩, ⟨0x1FD6, 0x1FD6, 1, .text [0x3B9, 0x342]⟩,
    ⟨0x1FD7, 0x1FD7, 1, .text [0x3B9, 0x308, 0x342]⟩, ⟨0x1FD8, 0x1FD9, 1, .shift (-8)⟩,
    ⟨0x1FDA, 0x1FDB, 1, .shift (-100)⟩, ⟨0x1FE2, 0x1FE2, 1, .text [0x3C5, 0x308, 0x300]⟩,
    ⟨0x1FE3, 0x1FE3, 1, .text [0x3C5, 0x308, 0x301]⟩, ⟨0x1FE4, 0x1FE4, 1, .text [0x3C1, 0x313]⟩,
    ⟨0x1FE6, 0x1FE6, 1, .text [0x3C5, 0x342]⟩, ⟨0x1FE7, 0x1FE7, 1, .text [0x3C5, 0x308, 0x342]⟩,
    ⟨0x1FE8, 0x1FE9, 1, .shift (-8)⟩, ⟨0x1FEA, 0x1FEB, 1, .shift (-112)⟩,
    ⟨0x1FEC, 0x1FEC, 1, .shift (-7)⟩, ⟨0x1FF2, 0x1FF2, 1, .text [0x1F7C, 0x3B9]⟩,
    ⟨0x1FF3, 0x1FF3, 1, .text [0x3C9, 0x3B9]⟩, ⟨0x1FF4, 0x1FF4, 1, .text [0x3CE, 0x3B9]⟩,
    ⟨0x1FF6, 0x1FF6, 1, .text [0x3C9, 0x342]⟩, ⟨0x1FF7, 0x1FF7, 1, .text [0x3C9, 0x342, 0x3B9]⟩,
    ⟨0x1FF8, 0x1FF9, 1, .shift (-128)⟩, ⟨0x1FFA, 0x1FFB, 1, .shift (-126)⟩,
    ⟨0x1FFC, 0x1FFC, 1, .text [0x3C9, 0x3B9]⟩, ⟨0x2126, 0x2126, 1, .shift (-7517)⟩,
    ⟨0x212A, 0x212A, 1, .shift (-8383)⟩, ⟨0x212B, 0x212B, 1, .shift (-8262)⟩,
    ⟨0x2132, 0x2132, 1, .shift 28⟩, ⟨0x2160, 0x216F, 1, .shift 16⟩, ⟨0x2183, 0x2183, 1, .shift 1⟩,
    ⟨0x24B6, 0x24CF, 1, .shift 26⟩, ⟨0x2C00, 0x2C2F, 1, .shift 48⟩, ⟨0x2C60, 0x2C60, 1, .shift 1⟩,
    ⟨0x2C62, 0x2C62, 1, .shift (-10743)⟩, ⟨0x2C63, 0x2C63, 1, .shift (-3814)⟩,
    ⟨0x2C64, 0x2C64, 1, .shift (-10727)⟩, ⟨0x2C67, 0x2C6B, 2, .shift 1⟩,
    ⟨0x2C6D, 0x2C6D, 1, .shift (-10780)⟩, ⟨0x2C6E, 0x2C6E, 1, .shift (-10749)⟩,
    ⟨0x2C6F, 0x2C6F, 1, .shift (-10783)⟩, ⟨0x2C70, 0x2C70, 1, .shift (-10782)⟩,
    ⟨0x2C72, 0x2C72, 1, .shift 1⟩, ⟨0x2C75, 0x2C75, 1, .shift 1⟩,
    ⟨0x2C7E, 0x2C7F, 1, .shift (-10815)⟩, ⟨0x2C80, 0x2CE2, 2, .shift 1⟩,
    ⟨0x2CEB, 0x2CED, 2, .shift 1⟩, ⟨0x2CF2, 0x2CF2, 1, .shift 1⟩, ⟨0xA640, 0xA66C, 2, .shift 1⟩,
    ⟨0xA680, 0xA69A, 2, .shift 1⟩, ⟨0xA722, 0xA72E, 2, .shift 1⟩, ⟨0xA732, 0xA76E, 2, .shift 1⟩,
    ⟨0xA779, 0xA77B, 2, .shift 1⟩, ⟨0xA77D, 0xA77D, 1, .shift (-35332)⟩,
    ⟨0xA77E, 0xA786, 2, .shift 1⟩, ⟨0xA78B, 0xA78B, 1, .shift 1⟩,
    ⟨0xA78D, 0xA78D, 1, .shift (-42280)⟩, ⟨0xA790, 0xA792, 2, .shift 1⟩,
    ⟨0xA796, 0xA7A8, 2, .shift 1⟩, ⟨0xA7AA, 0xA7AA, 1, .shift (-42308)⟩,
    ⟨0xA7AB, 0xA7AB, 1, .shift (-42319)⟩, ⟨0xA7AC, 0xA7AC, 1, .shift (-42315)⟩,
    ⟨0xA7AD, 0xA7AD, 1, .shift (-42305)⟩, ⟨0xA7AE, 0xA7AE, 1, .shift (-42308)⟩,
    ⟨0xA7B0, 0xA7B0, 1, .shift (-42258)⟩, ⟨0xA7B1, 0xA7B1, 1, .shift (-42282)⟩,
    ⟨0xA7B2, 0xA7B2, 1, .shift (-42261)⟩, ⟨0xA7B3, 0xA7B3, 1, .shift 928⟩,
    ⟨0xA7B4, 0xA7C2, 2, .shift 1⟩, ⟨0xA7C4, 0xA7C4, 1, .shift (-48)⟩,
    ⟨0xA7C5, 0xA7C5, 1, .shift (-42307)⟩, ⟨0xA7C6, 0xA7C6, 1, .shift (-35384)⟩,
    ⟨0xA7C7, 0xA7C9, 2, .shift 1⟩, ⟨0xA7CB, 0xA7CB, 1, .shift (-42343)⟩,
    ⟨0xA7CC, 0xA7DA, 2, .shift 1⟩, ⟨0xA7DC, 0xA7DC, 1, .shift (-42561)⟩,
    ⟨0xA7F5, 0xA7F5, 1, .shift 1⟩, ⟨0xAB70, 0xABBF, 1, .shift (-38864)⟩,
    ⟨0xFB00, 0xFB00, 1, .text [0x66, 0x66]⟩, ⟨0xFB01, 0xFB01, 1, .text [0x66, 0x69]⟩,
    ⟨0xFB02, 0xFB02, 1, .text [0x66, 0x6C]⟩, ⟨0xFB03, 0xFB03, 1, .text [0x66, 0x66, 0x69]⟩,
    ⟨0xFB04, 0xFB04, 1, .text [0x66, 0x66, 0x6C]⟩, ⟨0xFB05, 0xFB05, 1, .text [0x73, 0x74]⟩,
    ⟨0xFB06, 0xFB06, 1, .text [0x73, 0x74]⟩, ⟨0xFB13, 0xFB13, 1, .text [0x574, 0x576]⟩,
    ⟨0xFB14, 0xFB14, 1, .text [0x574, 0x565]⟩, ⟨0xFB15, 0xFB15, 1, .text [0x574, 0x56B]⟩,
    ⟨0xFB16, 0xFB16, 1, .text [0x57E, 0x576]⟩, ⟨0xFB17, 0xFB17, 1, .text [0x574, 0x56D]⟩,
    ⟨0xFF21, 0xFF3A, 1, .shift 32⟩, ⟨0x10400, 0x10427, 1, .shift 40⟩,
    ⟨0x104B0, 0x104D3, 1, .shift 40⟩, ⟨0x10570, 0x1057A, 1, .shift 39⟩,
    ⟨0x1057C, 0x1058A, 1, .shift 39⟩, ⟨0x1058C, 0x10592, 1, .shift 39⟩,
    ⟨0x10594, 0x10595, 1, .shift 39⟩, ⟨0x10C80, 0x10CB2, 1, .shift 64⟩,
    ⟨0x10D50, 0x10D65, 1, .shift 32⟩, ⟨0x118A0, 0x118BF, 1, .shift 32⟩,
    ⟨0x16E40, 0x16E5F, 1, .shift 32⟩, ⟨0x16EA0, 0x16EB8, 1, .shift 27⟩,
    ⟨0x1E900, 0x1E921, 1, .shift 34⟩]

end Text

end TitleScript

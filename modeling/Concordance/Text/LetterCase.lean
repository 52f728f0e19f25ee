import Concordance.Text.CaseShift
import Concordance.Text.CodeRanges

/-!
# Lower and upper case

The full case mappings of texts. A character may map to several, as the sharp s does in upper case,
and a capital sigma at the end of a word has a lower case of its own.

## Main definitions

* `Text.lower`, `Text.upper`: a text in lower and in upper case
* `Text.isCased`, `Text.isCaseIgnorable`: the classes that tell where a word ends
-/

namespace Concordance

namespace Text

/-- The lower case letters of single letters. -/
def lowerShifts : List CaseShift :=
  [⟨0x41, 0x5A, 1, false, 0x20⟩, ⟨0xC0, 0xD6, 1, false, 0x20⟩, ⟨0xD8, 0xDE, 1, false, 0x20⟩,
   ⟨0x100, 0x12E, 2, false, 0x1⟩, ⟨0x132, 0x136, 2, false, 0x1⟩, ⟨0x139, 0x147, 2, false, 0x1⟩,
   ⟨0x14A, 0x176, 2, false, 0x1⟩, ⟨0x178, 0x178, 1, true, 0x79⟩, ⟨0x179, 0x17D, 2, false, 0x1⟩,
   ⟨0x181, 0x181, 1, false, 0xD2⟩, ⟨0x182, 0x184, 2, false, 0x1⟩, ⟨0x186, 0x186, 1, false, 0xCE⟩,
   ⟨0x187, 0x187, 1, false, 0x1⟩, ⟨0x189, 0x18A, 1, false, 0xCD⟩, ⟨0x18B, 0x18B, 1, false, 0x1⟩,
   ⟨0x18E, 0x18E, 1, false, 0x4F⟩, ⟨0x18F, 0x18F, 1, false, 0xCA⟩, ⟨0x190, 0x190, 1, false, 0xCB⟩,
   ⟨0x191, 0x191, 1, false, 0x1⟩, ⟨0x193, 0x193, 1, false, 0xCD⟩, ⟨0x194, 0x194, 1, false, 0xCF⟩,
   ⟨0x196, 0x196, 1, false, 0xD3⟩, ⟨0x197, 0x197, 1, false, 0xD1⟩, ⟨0x198, 0x198, 1, false, 0x1⟩,
   ⟨0x19C, 0x19C, 1, false, 0xD3⟩, ⟨0x19D, 0x19D, 1, false, 0xD5⟩, ⟨0x19F, 0x19F, 1, false, 0xD6⟩,
   ⟨0x1A0, 0x1A4, 2, false, 0x1⟩, ⟨0x1A6, 0x1A6, 1, false, 0xDA⟩, ⟨0x1A7, 0x1A7, 1, false, 0x1⟩,
   ⟨0x1A9, 0x1A9, 1, false, 0xDA⟩, ⟨0x1AC, 0x1AC, 1, false, 0x1⟩, ⟨0x1AE, 0x1AE, 1, false, 0xDA⟩,
   ⟨0x1AF, 0x1AF, 1, false, 0x1⟩, ⟨0x1B1, 0x1B2, 1, false, 0xD9⟩, ⟨0x1B3, 0x1B5, 2, false, 0x1⟩,
   ⟨0x1B7, 0x1B7, 1, false, 0xDB⟩, ⟨0x1B8, 0x1B8, 1, false, 0x1⟩, ⟨0x1BC, 0x1BC, 1, false, 0x1⟩,
   ⟨0x1C4, 0x1C4, 1, false, 0x2⟩, ⟨0x1C5, 0x1C5, 1, false, 0x1⟩, ⟨0x1C7, 0x1C7, 1, false, 0x2⟩,
   ⟨0x1C8, 0x1C8, 1, false, 0x1⟩, ⟨0x1CA, 0x1CA, 1, false, 0x2⟩, ⟨0x1CB, 0x1DB, 2, false, 0x1⟩,
   ⟨0x1DE, 0x1EE, 2, false, 0x1⟩, ⟨0x1F1, 0x1F1, 1, false, 0x2⟩, ⟨0x1F2, 0x1F4, 2, false, 0x1⟩,
   ⟨0x1F6, 0x1F6, 1, true, 0x61⟩, ⟨0x1F7, 0x1F7, 1, true, 0x38⟩, ⟨0x1F8, 0x21E, 2, false, 0x1⟩,
   ⟨0x220, 0x220, 1, true, 0x82⟩, ⟨0x222, 0x232, 2, false, 0x1⟩, ⟨0x23A, 0x23A, 1, false, 0x2A2B⟩,
   ⟨0x23B, 0x23B, 1, false, 0x1⟩, ⟨0x23D, 0x23D, 1, true, 0xA3⟩, ⟨0x23E, 0x23E, 1, false, 0x2A28⟩,
   ⟨0x241, 0x241, 1, false, 0x1⟩, ⟨0x243, 0x243, 1, true, 0xC3⟩, ⟨0x244, 0x244, 1, false, 0x45⟩,
   ⟨0x245, 0x245, 1, false, 0x47⟩, ⟨0x246, 0x24E, 2, false, 0x1⟩, ⟨0x370, 0x372, 2, false, 0x1⟩,
   ⟨0x376, 0x376, 1, false, 0x1⟩, ⟨0x37F, 0x37F, 1, false, 0x74⟩, ⟨0x386, 0x386, 1, false, 0x26⟩,
   ⟨0x388, 0x38A, 1, false, 0x25⟩, ⟨0x38C, 0x38C, 1, false, 0x40⟩, ⟨0x38E, 0x38F, 1, false, 0x3F⟩,
   ⟨0x391, 0x3A1, 1, false, 0x20⟩, ⟨0x3A3, 0x3AB, 1, false, 0x20⟩, ⟨0x3CF, 0x3CF, 1, false, 0x8⟩,
   ⟨0x3D8, 0x3EE, 2, false, 0x1⟩, ⟨0x3F4, 0x3F4, 1, true, 0x3C⟩, ⟨0x3F7, 0x3F7, 1, false, 0x1⟩,
   ⟨0x3F9, 0x3F9, 1, true, 0x7⟩, ⟨0x3FA, 0x3FA, 1, false, 0x1⟩, ⟨0x3FD, 0x3FF, 1, true, 0x82⟩,
   ⟨0x400, 0x40F, 1, false, 0x50⟩, ⟨0x410, 0x42F, 1, false, 0x20⟩, ⟨0x460, 0x480, 2, false, 0x1⟩,
   ⟨0x48A, 0x4BE, 2, false, 0x1⟩, ⟨0x4C0, 0x4C0, 1, false, 0xF⟩, ⟨0x4C1, 0x4CD, 2, false, 0x1⟩,
   ⟨0x4D0, 0x52E, 2, false, 0x1⟩, ⟨0x531, 0x556, 1, false, 0x30⟩,
   ⟨0x10A0, 0x10C5, 1, false, 0x1C60⟩, ⟨0x10C7, 0x10C7, 1, false, 0x1C60⟩,
   ⟨0x10CD, 0x10CD, 1, false, 0x1C60⟩, ⟨0x13A0, 0x13EF, 1, false, 0x97D0⟩,
   ⟨0x13F0, 0x13F5, 1, false, 0x8⟩, ⟨0x1C89, 0x1C89, 1, false, 0x1⟩,
   ⟨0x1C90, 0x1CBA, 1, true, 0xBC0⟩, ⟨0x1CBD, 0x1CBF, 1, true, 0xBC0⟩,
   ⟨0x1E00, 0x1E94, 2, false, 0x1⟩, ⟨0x1E9E, 0x1E9E, 1, true, 0x1DBF⟩,
   ⟨0x1EA0, 0x1EFE, 2, false, 0x1⟩, ⟨0x1F08, 0x1F0F, 1, true, 0x8⟩, ⟨0x1F18, 0x1F1D, 1, true, 0x8⟩,
   ⟨0x1F28, 0x1F2F, 1, true, 0x8⟩, ⟨0x1F38, 0x1F3F, 1, true, 0x8⟩, ⟨0x1F48, 0x1F4D, 1, true, 0x8⟩,
   ⟨0x1F59, 0x1F5F, 2, true, 0x8⟩, ⟨0x1F68, 0x1F6F, 1, true, 0x8⟩, ⟨0x1F88, 0x1F8F, 1, true, 0x8⟩,
   ⟨0x1F98, 0x1F9F, 1, true, 0x8⟩, ⟨0x1FA8, 0x1FAF, 1, true, 0x8⟩, ⟨0x1FB8, 0x1FB9, 1, true, 0x8⟩,
   ⟨0x1FBA, 0x1FBB, 1, true, 0x4A⟩, ⟨0x1FBC, 0x1FBC, 1, true, 0x9⟩, ⟨0x1FC8, 0x1FCB, 1, true, 0x56⟩,
   ⟨0x1FCC, 0x1FCC, 1, true, 0x9⟩, ⟨0x1FD8, 0x1FD9, 1, true, 0x8⟩, ⟨0x1FDA, 0x1FDB, 1, true, 0x64⟩,
   ⟨0x1FE8, 0x1FE9, 1, true, 0x8⟩, ⟨0x1FEA, 0x1FEB, 1, true, 0x70⟩, ⟨0x1FEC, 0x1FEC, 1, true, 0x7⟩,
   ⟨0x1FF8, 0x1FF9, 1, true, 0x80⟩, ⟨0x1FFA, 0x1FFB, 1, true, 0x7E⟩, ⟨0x1FFC, 0x1FFC, 1, true, 0x9⟩,
   ⟨0x2126, 0x2126, 1, true, 0x1D5D⟩, ⟨0x212A, 0x212A, 1, true, 0x20BF⟩,
   ⟨0x212B, 0x212B, 1, true, 0x2046⟩, ⟨0x2132, 0x2132, 1, false, 0x1C⟩,
   ⟨0x2160, 0x216F, 1, false, 0x10⟩, ⟨0x2183, 0x2183, 1, false, 0x1⟩,
   ⟨0x24B6, 0x24CF, 1, false, 0x1A⟩, ⟨0x2C00, 0x2C2F, 1, false, 0x30⟩,
   ⟨0x2C60, 0x2C60, 1, false, 0x1⟩, ⟨0x2C62, 0x2C62, 1, true, 0x29F7⟩,
   ⟨0x2C63, 0x2C63, 1, true, 0xEE6⟩, ⟨0x2C64, 0x2C64, 1, true, 0x29E7⟩,
   ⟨0x2C67, 0x2C6B, 2, false, 0x1⟩, ⟨0x2C6D, 0x2C6D, 1, true, 0x2A1C⟩,
   ⟨0x2C6E, 0x2C6E, 1, true, 0x29FD⟩, ⟨0x2C6F, 0x2C6F, 1, true, 0x2A1F⟩,
   ⟨0x2C70, 0x2C70, 1, true, 0x2A1E⟩, ⟨0x2C72, 0x2C72, 1, false, 0x1⟩,
   ⟨0x2C75, 0x2C75, 1, false, 0x1⟩, ⟨0x2C7E, 0x2C7F, 1, true, 0x2A3F⟩,
   ⟨0x2C80, 0x2CE2, 2, false, 0x1⟩, ⟨0x2CEB, 0x2CED, 2, false, 0x1⟩,
   ⟨0x2CF2, 0x2CF2, 1, false, 0x1⟩, ⟨0xA640, 0xA66C, 2, false, 0x1⟩,
   ⟨0xA680, 0xA69A, 2, false, 0x1⟩, ⟨0xA722, 0xA72E, 2, false, 0x1⟩,
   ⟨0xA732, 0xA76E, 2, false, 0x1⟩, ⟨0xA779, 0xA77B, 2, false, 0x1⟩,
   ⟨0xA77D, 0xA77D, 1, true, 0x8A04⟩, ⟨0xA77E, 0xA786, 2, false, 0x1⟩,
   ⟨0xA78B, 0xA78B, 1, false, 0x1⟩, ⟨0xA78D, 0xA78D, 1, true, 0xA528⟩,
   ⟨0xA790, 0xA792, 2, false, 0x1⟩, ⟨0xA796, 0xA7A8, 2, false, 0x1⟩,
   ⟨0xA7AA, 0xA7AA, 1, true, 0xA544⟩, ⟨0xA7AB, 0xA7AB, 1, true, 0xA54F⟩,
   ⟨0xA7AC, 0xA7AC, 1, true, 0xA54B⟩, ⟨0xA7AD, 0xA7AD, 1, true, 0xA541⟩,
   ⟨0xA7AE, 0xA7AE, 1, true, 0xA544⟩, ⟨0xA7B0, 0xA7B0, 1, true, 0xA512⟩,
   ⟨0xA7B1, 0xA7B1, 1, true, 0xA52A⟩, ⟨0xA7B2, 0xA7B2, 1, true, 0xA515⟩,
   ⟨0xA7B3, 0xA7B3, 1, false, 0x3A0⟩, ⟨0xA7B4, 0xA7C2, 2, false, 0x1⟩,
   ⟨0xA7C4, 0xA7C4, 1, true, 0x30⟩, ⟨0xA7C5, 0xA7C5, 1, true, 0xA543⟩,
   ⟨0xA7C6, 0xA7C6, 1, true, 0x8A38⟩, ⟨0xA7C7, 0xA7C9, 2, false, 0x1⟩,
   ⟨0xA7CB, 0xA7CB, 1, true, 0xA567⟩, ⟨0xA7CC, 0xA7CC, 1, false, 0x1⟩,
   ⟨0xA7D0, 0xA7D0, 1, false, 0x1⟩, ⟨0xA7D6, 0xA7DA, 2, false, 0x1⟩,
   ⟨0xA7DC, 0xA7DC, 1, true, 0xA641⟩, ⟨0xA7F5, 0xA7F5, 1, false, 0x1⟩,
   ⟨0xFF21, 0xFF3A, 1, false, 0x20⟩, ⟨0x10400, 0x10427, 1, false, 0x28⟩,
   ⟨0x104B0, 0x104D3, 1, false, 0x28⟩, ⟨0x10570, 0x1057A, 1, false, 0x27⟩,
   ⟨0x1057C, 0x1058A, 1, false, 0x27⟩, ⟨0x1058C, 0x10592, 1, false, 0x27⟩,
   ⟨0x10594, 0x10595, 1, false, 0x27⟩, ⟨0x10C80, 0x10CB2, 1, false, 0x40⟩,
   ⟨0x10D50, 0x10D65, 1, false, 0x20⟩, ⟨0x118A0, 0x118BF, 1, false, 0x20⟩,
   ⟨0x16E40, 0x16E5F, 1, false, 0x20⟩, ⟨0x1E900, 0x1E921, 1, false, 0x22⟩]

/-- The upper case letters of single letters. -/
def upperShifts : List CaseShift :=
  [⟨0x61, 0x7A, 1, true, 0x20⟩, ⟨0xB5, 0xB5, 1, false, 0x2E7⟩, ⟨0xE0, 0xF6, 1, true, 0x20⟩,
   ⟨0xF8, 0xFE, 1, true, 0x20⟩, ⟨0xFF, 0xFF, 1, false, 0x79⟩, ⟨0x101, 0x12F, 2, true, 0x1⟩,
   ⟨0x131, 0x131, 1, true, 0xE8⟩, ⟨0x133, 0x137, 2, true, 0x1⟩, ⟨0x13A, 0x148, 2, true, 0x1⟩,
   ⟨0x14B, 0x177, 2, true, 0x1⟩, ⟨0x17A, 0x17E, 2, true, 0x1⟩, ⟨0x17F, 0x17F, 1, true, 0x12C⟩,
   ⟨0x180, 0x180, 1, false, 0xC3⟩, ⟨0x183, 0x185, 2, true, 0x1⟩, ⟨0x188, 0x188, 1, true, 0x1⟩,
   ⟨0x18C, 0x18C, 1, true, 0x1⟩, ⟨0x192, 0x192, 1, true, 0x1⟩, ⟨0x195, 0x195, 1, false, 0x61⟩,
   ⟨0x199, 0x199, 1, true, 0x1⟩, ⟨0x19A, 0x19A, 1, false, 0xA3⟩, ⟨0x19B, 0x19B, 1, false, 0xA641⟩,
   ⟨0x19E, 0x19E, 1, false, 0x82⟩, ⟨0x1A1, 0x1A5, 2, true, 0x1⟩, ⟨0x1A8, 0x1A8, 1, true, 0x1⟩,
   ⟨0x1AD, 0x1AD, 1, true, 0x1⟩, ⟨0x1B0, 0x1B0, 1, true, 0x1⟩, ⟨0x1B4, 0x1B6, 2, true, 0x1⟩,
   ⟨0x1B9, 0x1B9, 1, true, 0x1⟩, ⟨0x1BD, 0x1BD, 1, true, 0x1⟩, ⟨0x1BF, 0x1BF, 1, false, 0x38⟩,
   ⟨0x1C5, 0x1C5, 1, true, 0x1⟩, ⟨0x1C6, 0x1C6, 1, true, 0x2⟩, ⟨0x1C8, 0x1C8, 1, true, 0x1⟩,
   ⟨0x1C9, 0x1C9, 1, true, 0x2⟩, ⟨0x1CB, 0x1CB, 1, true, 0x1⟩, ⟨0x1CC, 0x1CC, 1, true, 0x2⟩,
   ⟨0x1CE, 0x1DC, 2, true, 0x1⟩, ⟨0x1DD, 0x1DD, 1, true, 0x4F⟩, ⟨0x1DF, 0x1EF, 2, true, 0x1⟩,
   ⟨0x1F2, 0x1F2, 1, true, 0x1⟩, ⟨0x1F3, 0x1F3, 1, true, 0x2⟩, ⟨0x1F5, 0x1F5, 1, true, 0x1⟩,
   ⟨0x1F9, 0x21F, 2, true, 0x1⟩, ⟨0x223, 0x233, 2, true, 0x1⟩, ⟨0x23C, 0x23C, 1, true, 0x1⟩,
   ⟨0x23F, 0x240, 1, false, 0x2A3F⟩, ⟨0x242, 0x242, 1, true, 0x1⟩, ⟨0x247, 0x24F, 2, true, 0x1⟩,
   ⟨0x250, 0x250, 1, false, 0x2A1F⟩, ⟨0x251, 0x251, 1, false, 0x2A1C⟩,
   ⟨0x252, 0x252, 1, false, 0x2A1E⟩, ⟨0x253, 0x253, 1, true, 0xD2⟩, ⟨0x254, 0x254, 1, true, 0xCE⟩,
   ⟨0x256, 0x257, 1, true, 0xCD⟩, ⟨0x259, 0x259, 1, true, 0xCA⟩, ⟨0x25B, 0x25B, 1, true, 0xCB⟩,
   ⟨0x25C, 0x25C, 1, false, 0xA54F⟩, ⟨0x260, 0x260, 1, true, 0xCD⟩,
   ⟨0x261, 0x261, 1, false, 0xA54B⟩, ⟨0x263, 0x263, 1, true, 0xCF⟩,
   ⟨0x264, 0x264, 1, false, 0xA567⟩, ⟨0x265, 0x265, 1, false, 0xA528⟩,
   ⟨0x266, 0x266, 1, false, 0xA544⟩, ⟨0x268, 0x268, 1, true, 0xD1⟩, ⟨0x269, 0x269, 1, true, 0xD3⟩,
   ⟨0x26A, 0x26A, 1, false, 0xA544⟩, ⟨0x26B, 0x26B, 1, false, 0x29F7⟩,
   ⟨0x26C, 0x26C, 1, false, 0xA541⟩, ⟨0x26F, 0x26F, 1, true, 0xD3⟩,
   ⟨0x271, 0x271, 1, false, 0x29FD⟩, ⟨0x272, 0x272, 1, true, 0xD5⟩, ⟨0x275, 0x275, 1, true, 0xD6⟩,
   ⟨0x27D, 0x27D, 1, false, 0x29E7⟩, ⟨0x280, 0x280, 1, true, 0xDA⟩,
   ⟨0x282, 0x282, 1, false, 0xA543⟩, ⟨0x283, 0x283, 1, true, 0xDA⟩,
   ⟨0x287, 0x287, 1, false, 0xA52A⟩, ⟨0x288, 0x288, 1, true, 0xDA⟩, ⟨0x289, 0x289, 1, true, 0x45⟩,
   ⟨0x28A, 0x28B, 1, true, 0xD9⟩, ⟨0x28C, 0x28C, 1, true, 0x47⟩, ⟨0x292, 0x292, 1, true, 0xDB⟩,
   ⟨0x29D, 0x29D, 1, false, 0xA515⟩, ⟨0x29E, 0x29E, 1, false, 0xA512⟩,
   ⟨0x345, 0x345, 1, false, 0x54⟩, ⟨0x371, 0x373, 2, true, 0x1⟩, ⟨0x377, 0x377, 1, true, 0x1⟩,
   ⟨0x37B, 0x37D, 1, false, 0x82⟩, ⟨0x3AC, 0x3AC, 1, true, 0x26⟩, ⟨0x3AD, 0x3AF, 1, true, 0x25⟩,
   ⟨0x3B1, 0x3C1, 1, true, 0x20⟩, ⟨0x3C2, 0x3C2, 1, true, 0x1F⟩, ⟨0x3C3, 0x3CB, 1, true, 0x20⟩,
   ⟨0x3CC, 0x3CC, 1, true, 0x40⟩, ⟨0x3CD, 0x3CE, 1, true, 0x3F⟩, ⟨0x3D0, 0x3D0, 1, true, 0x3E⟩,
   ⟨0x3D1, 0x3D1, 1, true, 0x39⟩, ⟨0x3D5, 0x3D5, 1, true, 0x2F⟩, ⟨0x3D6, 0x3D6, 1, true, 0x36⟩,
   ⟨0x3D7, 0x3D7, 1, true, 0x8⟩, ⟨0x3D9, 0x3EF, 2, true, 0x1⟩, ⟨0x3F0, 0x3F0, 1, true, 0x56⟩,
   ⟨0x3F1, 0x3F1, 1, true, 0x50⟩, ⟨0x3F2, 0x3F2, 1, false, 0x7⟩, ⟨0x3F3, 0x3F3, 1, true, 0x74⟩,
   ⟨0x3F5, 0x3F5, 1, true, 0x60⟩, ⟨0x3F8, 0x3F8, 1, true, 0x1⟩, ⟨0x3FB, 0x3FB, 1, true, 0x1⟩,
   ⟨0x430, 0x44F, 1, true, 0x20⟩, ⟨0x450, 0x45F, 1, true, 0x50⟩, ⟨0x461, 0x481, 2, true, 0x1⟩,
   ⟨0x48B, 0x4BF, 2, true, 0x1⟩, ⟨0x4C2, 0x4CE, 2, true, 0x1⟩, ⟨0x4CF, 0x4CF, 1, true, 0xF⟩,
   ⟨0x4D1, 0x52F, 2, true, 0x1⟩, ⟨0x561, 0x586, 1, true, 0x30⟩, ⟨0x10D0, 0x10FA, 1, false, 0xBC0⟩,
   ⟨0x10FD, 0x10FF, 1, false, 0xBC0⟩, ⟨0x13F8, 0x13FD, 1, true, 0x8⟩,
   ⟨0x1C80, 0x1C80, 1, true, 0x186E⟩, ⟨0x1C81, 0x1C81, 1, true, 0x186D⟩,
   ⟨0x1C82, 0x1C82, 1, true, 0x1864⟩, ⟨0x1C83, 0x1C84, 1, true, 0x1862⟩,
   ⟨0x1C85, 0x1C85, 1, true, 0x1863⟩, ⟨0x1C86, 0x1C86, 1, true, 0x185C⟩,
   ⟨0x1C87, 0x1C87, 1, true, 0x1825⟩, ⟨0x1C88, 0x1C88, 1, false, 0x89C2⟩,
   ⟨0x1C8A, 0x1C8A, 1, true, 0x1⟩, ⟨0x1D79, 0x1D79, 1, false, 0x8A04⟩,
   ⟨0x1D7D, 0x1D7D, 1, false, 0xEE6⟩, ⟨0x1D8E, 0x1D8E, 1, false, 0x8A38⟩,
   ⟨0x1E01, 0x1E95, 2, true, 0x1⟩, ⟨0x1E9B, 0x1E9B, 1, true, 0x3B⟩, ⟨0x1EA1, 0x1EFF, 2, true, 0x1⟩,
   ⟨0x1F00, 0x1F07, 1, false, 0x8⟩, ⟨0x1F10, 0x1F15, 1, false, 0x8⟩,
   ⟨0x1F20, 0x1F27, 1, false, 0x8⟩, ⟨0x1F30, 0x1F37, 1, false, 0x8⟩,
   ⟨0x1F40, 0x1F45, 1, false, 0x8⟩, ⟨0x1F51, 0x1F57, 2, false, 0x8⟩,
   ⟨0x1F60, 0x1F67, 1, false, 0x8⟩, ⟨0x1F70, 0x1F71, 1, false, 0x4A⟩,
   ⟨0x1F72, 0x1F75, 1, false, 0x56⟩, ⟨0x1F76, 0x1F77, 1, false, 0x64⟩,
   ⟨0x1F78, 0x1F79, 1, false, 0x80⟩, ⟨0x1F7A, 0x1F7B, 1, false, 0x70⟩,
   ⟨0x1F7C, 0x1F7D, 1, false, 0x7E⟩, ⟨0x1FB0, 0x1FB1, 1, false, 0x8⟩,
   ⟨0x1FBE, 0x1FBE, 1, true, 0x1C25⟩, ⟨0x1FD0, 0x1FD1, 1, false, 0x8⟩,
   ⟨0x1FE0, 0x1FE1, 1, false, 0x8⟩, ⟨0x1FE5, 0x1FE5, 1, false, 0x7⟩,
   ⟨0x214E, 0x214E, 1, true, 0x1C⟩, ⟨0x2170, 0x217F, 1, true, 0x10⟩, ⟨0x2184, 0x2184, 1, true, 0x1⟩,
   ⟨0x24D0, 0x24E9, 1, true, 0x1A⟩, ⟨0x2C30, 0x2C5F, 1, true, 0x30⟩, ⟨0x2C61, 0x2C61, 1, true, 0x1⟩,
   ⟨0x2C65, 0x2C65, 1, true, 0x2A2B⟩, ⟨0x2C66, 0x2C66, 1, true, 0x2A28⟩,
   ⟨0x2C68, 0x2C6C, 2, true, 0x1⟩, ⟨0x2C73, 0x2C73, 1, true, 0x1⟩, ⟨0x2C76, 0x2C76, 1, true, 0x1⟩,
   ⟨0x2C81, 0x2CE3, 2, true, 0x1⟩, ⟨0x2CEC, 0x2CEE, 2, true, 0x1⟩, ⟨0x2CF3, 0x2CF3, 1, true, 0x1⟩,
   ⟨0x2D00, 0x2D25, 1, true, 0x1C60⟩, ⟨0x2D27, 0x2D27, 1, true, 0x1C60⟩,
   ⟨0x2D2D, 0x2D2D, 1, true, 0x1C60⟩, ⟨0xA641, 0xA66D, 2, true, 0x1⟩,
   ⟨0xA681, 0xA69B, 2, true, 0x1⟩, ⟨0xA723, 0xA72F, 2, true, 0x1⟩, ⟨0xA733, 0xA76F, 2, true, 0x1⟩,
   ⟨0xA77A, 0xA77C, 2, true, 0x1⟩, ⟨0xA77F, 0xA787, 2, true, 0x1⟩, ⟨0xA78C, 0xA78C, 1, true, 0x1⟩,
   ⟨0xA791, 0xA793, 2, true, 0x1⟩, ⟨0xA794, 0xA794, 1, false, 0x30⟩, ⟨0xA797, 0xA7A9, 2, true, 0x1⟩,
   ⟨0xA7B5, 0xA7C3, 2, true, 0x1⟩, ⟨0xA7C8, 0xA7CA, 2, true, 0x1⟩, ⟨0xA7CD, 0xA7CD, 1, true, 0x1⟩,
   ⟨0xA7D1, 0xA7D1, 1, true, 0x1⟩, ⟨0xA7D7, 0xA7DB, 2, true, 0x1⟩, ⟨0xA7F6, 0xA7F6, 1, true, 0x1⟩,
   ⟨0xAB53, 0xAB53, 1, true, 0x3A0⟩, ⟨0xAB70, 0xABBF, 1, true, 0x97D0⟩,
   ⟨0xFF41, 0xFF5A, 1, true, 0x20⟩, ⟨0x10428, 0x1044F, 1, true, 0x28⟩,
   ⟨0x104D8, 0x104FB, 1, true, 0x28⟩, ⟨0x10597, 0x105A1, 1, true, 0x27⟩,
   ⟨0x105A3, 0x105B1, 1, true, 0x27⟩, ⟨0x105B3, 0x105B9, 1, true, 0x27⟩,
   ⟨0x105BB, 0x105BC, 1, true, 0x27⟩, ⟨0x10CC0, 0x10CF2, 1, true, 0x40⟩,
   ⟨0x10D70, 0x10D85, 1, true, 0x20⟩, ⟨0x118C0, 0x118DF, 1, true, 0x20⟩,
   ⟨0x16E60, 0x16E7F, 1, true, 0x20⟩, ⟨0x1E922, 0x1E943, 1, true, 0x22⟩]

/-- The letters whose upper case is several characters, each with those characters. -/
def upperExpansions : List (Nat × List Nat) :=
  [(0xDF, [0x53, 0x53]), (0x149, [0x2BC, 0x4E]), (0x1F0, [0x4A, 0x30C]),
    (0x390, [0x399, 0x308, 0x301]), (0x3B0, [0x3A5, 0x308, 0x301]), (0x587, [0x535, 0x552]),
    (0x1E96, [0x48, 0x331]), (0x1E97, [0x54, 0x308]), (0x1E98, [0x57, 0x30A]),
    (0x1E99, [0x59, 0x30A]), (0x1E9A, [0x41, 0x2BE]), (0x1F50, [0x3A5, 0x313]),
    (0x1F52, [0x3A5, 0x313, 0x300]), (0x1F54, [0x3A5, 0x313, 0x301]),
    (0x1F56, [0x3A5, 0x313, 0x342]), (0x1F80, [0x1F08, 0x399]), (0x1F81, [0x1F09, 0x399]),
    (0x1F82, [0x1F0A, 0x399]), (0x1F83, [0x1F0B, 0x399]), (0x1F84, [0x1F0C, 0x399]),
    (0x1F85, [0x1F0D, 0x399]), (0x1F86, [0x1F0E, 0x399]), (0x1F87, [0x1F0F, 0x399]),
    (0x1F88, [0x1F08, 0x399]), (0x1F89, [0x1F09, 0x399]), (0x1F8A, [0x1F0A, 0x399]),
    (0x1F8B, [0x1F0B, 0x399]), (0x1F8C, [0x1F0C, 0x399]), (0x1F8D, [0x1F0D, 0x399]),
    (0x1F8E, [0x1F0E, 0x399]), (0x1F8F, [0x1F0F, 0x399]), (0x1F90, [0x1F28, 0x399]),
    (0x1F91, [0x1F29, 0x399]), (0x1F92, [0x1F2A, 0x399]), (0x1F93, [0x1F2B, 0x399]),
    (0x1F94, [0x1F2C, 0x399]), (0x1F95, [0x1F2D, 0x399]), (0x1F96, [0x1F2E, 0x399]),
    (0x1F97, [0x1F2F, 0x399]), (0x1F98, [0x1F28, 0x399]), (0x1F99, [0x1F29, 0x399]),
    (0x1F9A, [0x1F2A, 0x399]), (0x1F9B, [0x1F2B, 0x399]), (0x1F9C, [0x1F2C, 0x399]),
    (0x1F9D, [0x1F2D, 0x399]), (0x1F9E, [0x1F2E, 0x399]), (0x1F9F, [0x1F2F, 0x399]),
    (0x1FA0, [0x1F68, 0x399]), (0x1FA1, [0x1F69, 0x399]), (0x1FA2, [0x1F6A, 0x399]),
    (0x1FA3, [0x1F6B, 0x399]), (0x1FA4, [0x1F6C, 0x399]), (0x1FA5, [0x1F6D, 0x399]),
    (0x1FA6, [0x1F6E, 0x399]), (0x1FA7, [0x1F6F, 0x399]), (0x1FA8, [0x1F68, 0x399]),
    (0x1FA9, [0x1F69, 0x399]), (0x1FAA, [0x1F6A, 0x399]), (0x1FAB, [0x1F6B, 0x399]),
    (0x1FAC, [0x1F6C, 0x399]), (0x1FAD, [0x1F6D, 0x399]), (0x1FAE, [0x1F6E, 0x399]),
    (0x1FAF, [0x1F6F, 0x399]), (0x1FB2, [0x1FBA, 0x399]), (0x1FB3, [0x391, 0x399]),
    (0x1FB4, [0x386, 0x399]), (0x1FB6, [0x391, 0x342]), (0x1FB7, [0x391, 0x342, 0x399]),
    (0x1FBC, [0x391, 0x399]), (0x1FC2, [0x1FCA, 0x399]), (0x1FC3, [0x397, 0x399]),
    (0x1FC4, [0x389, 0x399]), (0x1FC6, [0x397, 0x342]), (0x1FC7, [0x397, 0x342, 0x399]),
    (0x1FCC, [0x397, 0x399]), (0x1FD2, [0x399, 0x308, 0x300]), (0x1FD3, [0x399, 0x308, 0x301]),
    (0x1FD6, [0x399, 0x342]), (0x1FD7, [0x399, 0x308, 0x342]), (0x1FE2, [0x3A5, 0x308, 0x300]),
    (0x1FE3, [0x3A5, 0x308, 0x301]), (0x1FE4, [0x3A1, 0x313]), (0x1FE6, [0x3A5, 0x342]),
    (0x1FE7, [0x3A5, 0x308, 0x342]), (0x1FF2, [0x1FFA, 0x399]), (0x1FF3, [0x3A9, 0x399]),
    (0x1FF4, [0x38F, 0x399]), (0x1FF6, [0x3A9, 0x342]), (0x1FF7, [0x3A9, 0x342, 0x399]),
    (0x1FFC, [0x3A9, 0x399]), (0xFB00, [0x46, 0x46]), (0xFB01, [0x46, 0x49]),
    (0xFB02, [0x46, 0x4C]), (0xFB03, [0x46, 0x46, 0x49]), (0xFB04, [0x46, 0x46, 0x4C]),
    (0xFB05, [0x53, 0x54]), (0xFB06, [0x53, 0x54]), (0xFB13, [0x544, 0x546]),
    (0xFB14, [0x544, 0x535]), (0xFB15, [0x544, 0x53B]), (0xFB16, [0x54E, 0x546]),
    (0xFB17, [0x544, 0x53D])]

/-- Letters that have case, beyond ASCII. -/
def casedRanges : CodeRanges :=
  CodeRanges.ofHex
    "41-5A 61-7A AA B5 BA C0-D6 D8-F6 F8-1BA 1BC-1BF 1C4-293 295-2B8 2C0-2C1 2E0-2E4 345 370-373
    376-377 37A-37D 37F 386 388-38A 38C 38E-3A1 3A3-3F5 3F7-481 48A-52F 531-556 560-588
    10A0-10C5 10C7 10CD 10D0-10FA 10FC-10FF 13A0-13F5 13F8-13FD 1C80-1C8A 1C90-1CBA 1CBD-1CBF
    1D00-1DBF 1E00-1F15 1F18-1F1D 1F20-1F45 1F48-1F4D 1F50-1F57 1F59 1F5B 1F5D 1F5F-1F7D
    1F80-1FB4 1FB6-1FBC 1FBE 1FC2-1FC4 1FC6-1FCC 1FD0-1FD3 1FD6-1FDB 1FE0-1FEC 1FF2-1FF4
    1FF6-1FFC 2071 207F 2090-209C 2102 2107 210A-2113 2115 2119-211D 2124 2126 2128 212A-212D
    212F-2134 2139 213C-213F 2145-2149 214E 2160-217F 2183-2184 24B6-24E9 2C00-2CE4 2CEB-2CEE
    2CF2-2CF3 2D00-2D25 2D27 2D2D A640-A66D A680-A69D A722-A787 A78B-A78E A790-A7CD A7D0-A7D1
    A7D3 A7D5-A7DC A7F2-A7F6 A7F8-A7FA AB30-AB5A AB5C-AB69 AB70-ABBF FB00-FB06 FB13-FB17
    FF21-FF3A FF41-FF5A 10400-1044F 104B0-104D3 104D8-104FB 10570-1057A 1057C-1058A 1058C-10592
    10594-10595 10597-105A1 105A3-105B1 105B3-105B9 105BB-105BC 10780 10783-10785 10787-107B0
    107B2-107BA 10C80-10CB2 10CC0-10CF2 10D50-10D65 10D70-10D85 118A0-118DF 16E40-16E7F
    1D400-1D454 1D456-1D49C 1D49E-1D49F 1D4A2 1D4A5-1D4A6 1D4A9-1D4AC 1D4AE-1D4B9 1D4BB
    1D4BD-1D4C3 1D4C5-1D505 1D507-1D50A 1D50D-1D514 1D516-1D51C 1D51E-1D539 1D53B-1D53E
    1D540-1D544 1D546 1D54A-1D550 1D552-1D6A5 1D6A8-1D6C0 1D6C2-1D6DA 1D6DC-1D6FA 1D6FC-1D714
    1D716-1D734 1D736-1D74E 1D750-1D76E 1D770-1D788 1D78A-1D7A8 1D7AA-1D7C2 1D7C4-1D7CB
    1DF00-1DF09 1DF0B-1DF1E 1DF25-1DF2A 1E030-1E06D 1E900-1E943 1F130-1F149 1F150-1F169
    1F170-1F189"

/-- Marks that the search for the end of a word passes over. -/
def caseIgnorableRanges : CodeRanges :=
  CodeRanges.ofHex
    "27 2E 3A 5E 60 A8 AD AF B4 B7-B8 2B0-36F 374-375 37A 384-385 387 483-489 559 55F 591-5BD 5BF
    5C1-5C2 5C4-5C5 5C7 5F4 600-605 610-61A 61C 640 64B-65F 670 6D6-6DD 6DF-6E8 6EA-6ED 70F 711
    730-74A 7A6-7B0 7EB-7F5 7FA 7FD 816-82D 859-85B 888 890-891 897-89F 8C9-902 93A 93C 941-948
    94D 951-957 962-963 971 981 9BC 9C1-9C4 9CD 9E2-9E3 9FE A01-A02 A3C A41-A42 A47-A48 A4B-A4D
    A51 A70-A71 A75 A81-A82 ABC AC1-AC5 AC7-AC8 ACD AE2-AE3 AFA-AFF B01 B3C B3F B41-B44 B4D
    B55-B56 B62-B63 B82 BC0 BCD C00 C04 C3C C3E-C40 C46-C48 C4A-C4D C55-C56 C62-C63 C81 CBC CBF
    CC6 CCC-CCD CE2-CE3 D00-D01 D3B-D3C D41-D44 D4D D62-D63 D81 DCA DD2-DD4 DD6 E31 E34-E3A
    E46-E4E EB1 EB4-EBC EC6 EC8-ECE F18-F19 F35 F37 F39 F71-F7E F80-F84 F86-F87 F8D-F97 F99-FBC
    FC6 102D-1030 1032-1037 1039-103A 103D-103E 1058-1059 105E-1060 1071-1074 1082 1085-1086
    108D 109D 10FC 135D-135F 1712-1714 1732-1733 1752-1753 1772-1773 17B4-17B5 17B7-17BD 17C6
    17C9-17D3 17D7 17DD 180B-180F 1843 1885-1886 18A9 1920-1922 1927-1928 1932 1939-193B
    1A17-1A18 1A1B 1A56 1A58-1A5E 1A60 1A62 1A65-1A6C 1A73-1A7C 1A7F 1AA7 1AB0-1ACE 1B00-1B03
    1B34 1B36-1B3A 1B3C 1B42 1B6B-1B73 1B80-1B81 1BA2-1BA5 1BA8-1BA9 1BAB-1BAD 1BE6 1BE8-1BE9
    1BED 1BEF-1BF1 1C2C-1C33 1C36-1C37 1C78-1C7D 1CD0-1CD2 1CD4-1CE0 1CE2-1CE8 1CED 1CF4
    1CF8-1CF9 1D2C-1D6A 1D78 1D9B-1DFF 1FBD 1FBF-1FC1 1FCD-1FCF 1FDD-1FDF 1FED-1FEF 1FFD-1FFE
    200B-200F 2018-2019 2024 2027 202A-202E 2060-2064 2066-206F 2071 207F 2090-209C 20D0-20F0
    2C7C-2C7D 2CEF-2CF1 2D6F 2D7F 2DE0-2DFF 2E2F 3005 302A-302D 3031-3035 303B 3099-309E
    30FC-30FE A015 A4F8-A4FD A60C A66F-A672 A674-A67D A67F A69C-A69F A6F0-A6F1 A700-A721 A770
    A788-A78A A7F2-A7F4 A7F8-A7F9 A802 A806 A80B A825-A826 A82C A8C4-A8C5 A8E0-A8F1 A8FF
    A926-A92D A947-A951 A980-A982 A9B3 A9B6-A9B9 A9BC-A9BD A9CF A9E5-A9E6 AA29-AA2E AA31-AA32
    AA35-AA36 AA43 AA4C AA70 AA7C AAB0 AAB2-AAB4 AAB7-AAB8 AABE-AABF AAC1 AADD AAEC-AAED
    AAF3-AAF4 AAF6 AB5B-AB5F AB69-AB6B ABE5 ABE8 ABED FB1E FBB2-FBC2 FE00-FE0F FE13 FE20-FE2F
    FE52 FE55 FEFF FF07 FF0E FF1A FF3E FF40 FF70 FF9E-FF9F FFE3 FFF9-FFFB 101FD 102E0
    10376-1037A 10780-10785 10787-107B0 107B2-107BA 10A01-10A03 10A05-10A06 10A0C-10A0F
    10A38-10A3A 10A3F 10AE5-10AE6 10D24-10D27 10D4E 10D69-10D6D 10D6F 10EAB-10EAC 10EFC-10EFF
    10F46-10F50 10F82-10F85 11001 11038-11046 11070 11073-11074 1107F-11081 110B3-110B6
    110B9-110BA 110BD 110C2 110CD 11100-11102 11127-1112B 1112D-11134 11173 11180-11181
    111B6-111BE 111C9-111CC 111CF 1122F-11231 11234 11236-11237 1123E 11241 112DF 112E3-112EA
    11300-11301 1133B-1133C 11340 11366-1136C 11370-11374 113BB-113C0 113CE 113D0 113D2
    113E1-113E2 11438-1143F 11442-11444 11446 1145E 114B3-114B8 114BA 114BF-114C0 114C2-114C3
    115B2-115B5 115BC-115BD 115BF-115C0 115DC-115DD 11633-1163A 1163D 1163F-11640 116AB 116AD
    116B0-116B5 116B7 1171D-1171F 11722-11725 11727-1172B 1182F-11837 11839-1183A 1193B-1193C
    1193E 11943 119D4-119D7 119DA-119DB 119E0 11A01-11A0A 11A33-11A38 11A3B-11A3E 11A47
    11A51-11A56 11A59-11A5B 11A8A-11A96 11A98-11A99 11C30-11C36 11C38-11C3D 11C3F 11C92-11CA7
    11CAA-11CB0 11CB2-11CB3 11CB5-11CB6 11D31-11D36 11D3A 11D3C-11D3D 11D3F-11D45 11D47
    11D90-11D91 11D95 11D97 11EF3-11EF4 11F00-11F01 11F36-11F3A 11F40 11F42 13430-13440
    13447-13455 1611E-16129 1612D-1612F 16AF0-16AF4 16B30-16B36 16B40-16B43 16D40-16D42
    16D6B-16D6C 16F4F 16F8F-16F9F 16FE0-16FE1 16FE3-16FE4 1AFF0-1AFF3 1AFF5-1AFFB 1AFFD-1AFFE
    1BC9D-1BC9E 1BCA0-1BCA3 1CF00-1CF2D 1CF30-1CF46 1D167-1D169 1D173-1D182 1D185-1D18B
    1D1AA-1D1AD 1D242-1D244 1DA00-1DA36 1DA3B-1DA6C 1DA75 1DA84 1DA9B-1DA9F 1DAA1-1DAAF
    1E000-1E006 1E008-1E018 1E01B-1E021 1E023-1E024 1E026-1E02A 1E030-1E06D 1E08F 1E130-1E13D
    1E2AE 1E2EC-1E2EF 1E4EB-1E4EF 1E5EE-1E5EF 1E8D0-1E8D6 1E944-1E94B 1F3FB-1F3FF E0001
    E0020-E007F E0100-E01EF"

/-- A letter that has case. -/
def isCased (c : Char) : Bool :=
  if c.toNat < 0x80 then c.isAlpha else casedRanges.contains c.toNat

/-- A mark that does not end a word. -/
def isCaseIgnorable (c : Char) : Bool :=
  caseIgnorableRanges.contains c.toNat

/-! ### Single characters -/

/-- The lower case of a character outside of any word. -/
def lowerChar (c : Char) : List Char :=
  if c.toNat < 0x80 then [c.toLower]
  else if c.toNat == 0x130 then ['i', Char.ofNat 0x307]
  else [Char.ofNat (CaseShift.image lowerShifts c.toNat)]

/-- The upper case of a character. -/
def upperChar (c : Char) : List Char :=
  if c.toNat < 0x80 then [c.toUpper]
  else match upperExpansions.lookup c.toNat with
    | some codes => codes.map Char.ofNat
    | none => [Char.ofNat (CaseShift.image upperShifts c.toNat)]

/-! ### Texts -/

/-- Whether the first character that counts is a letter with case. -/
def startsCased (cs : List Char) : Bool :=
  match cs.dropWhile isCaseIgnorable with
  | [] => false
  | c :: _ => isCased c

/-- A capital sigma is final if a cased letter comes before it and none follows. -/
def sigma (before after : List Char) : Char :=
  if startsCased before && !startsCased after then Char.ofNat 0x3C2 else Char.ofNat 0x3C3

/-- The lower case of a text that stands after `before`, read backwards. -/
def lowerAfter (before : List Char) : List Char → List Char
  | [] => []
  | c :: cs =>
    (if c.toNat == 0x3A3 then [sigma before cs] else lowerChar c) ++ lowerAfter (c :: before) cs

/-- A text in lower case. -/
def lower (cs : List Char) : List Char :=
  lowerAfter [] cs

/-- A text in upper case. -/
def upper (cs : List Char) : List Char :=
  cs.flatMap upperChar

@[simp] theorem lower_nil : lower [] = [] := rfl

@[simp] theorem upper_nil : upper [] = [] := rfl

@[simp] theorem upper_cons (c : Char) (cs : List Char) : upper (c :: cs) = upperChar c ++ upper cs :=
  rfl

/-- An ASCII text is put in lower case letter by letter. -/
theorem lowerAfter_of_ascii {before cs : List Char} (h : ∀ c ∈ cs, c.toNat < 0x80) :
    lowerAfter before cs = cs.map Char.toLower := by
  induction cs generalizing before with
  | nil => rfl
  | cons c cs ih =>
    have hc : c.toNat < 0x80 := h c (by simp)
    have hs : (c.toNat == 0x3A3) = false := by
      simp only [beq_eq_false_iff_ne]
      omega
    simp [lowerAfter, hs, lowerChar, hc, ih fun d hd => h d (by simp [hd])]

theorem lower_of_ascii {cs : List Char} (h : ∀ c ∈ cs, c.toNat < 0x80) :
    lower cs = cs.map Char.toLower :=
  lowerAfter_of_ascii h

end Text

end Concordance

import FeatureAudit.Text.CharRange
import FeatureAudit.Text.CombiningClass

/-!
Composed text: a letter and the marks on it are written as one character where there is one, and the
marks that are left stand in the order of their classes.

* `decomposed` takes every letter apart, `reordered` sorts marks, and `composed` puts together again.
* `isComposed` tells the texts that this leaves as they are.

Capitals are left out of the table of letters with marks, and so are syllables that are written with
one character alone.
-/
namespace FeatureAudit.Text

/-- A letter with a mark: one code point for two. -/
structure Composite where
  whole : Nat
  base : Nat
  mark : Nat

/-- Lowercase letters with a mark (Unicode 14). The base may have a mark itself. -/
def composites : List Composite := [
  ⟨0x00E0, 0x61, 0x0300⟩, ⟨0x00E1, 0x61, 0x0301⟩, ⟨0x00E2, 0x61, 0x0302⟩, ⟨0x00E3, 0x61, 0x0303⟩,
  ⟨0x00E4, 0x61, 0x0308⟩, ⟨0x00E5, 0x61, 0x030A⟩, ⟨0x00E7, 0x63, 0x0327⟩, ⟨0x00E8, 0x65, 0x0300⟩,
  ⟨0x00E9, 0x65, 0x0301⟩, ⟨0x00EA, 0x65, 0x0302⟩, ⟨0x00EB, 0x65, 0x0308⟩, ⟨0x00EC, 0x69, 0x0300⟩,
  ⟨0x00ED, 0x69, 0x0301⟩, ⟨0x00EE, 0x69, 0x0302⟩, ⟨0x00EF, 0x69, 0x0308⟩, ⟨0x00F1, 0x6E, 0x0303⟩,
  ⟨0x00F2, 0x6F, 0x0300⟩, ⟨0x00F3, 0x6F, 0x0301⟩, ⟨0x00F4, 0x6F, 0x0302⟩, ⟨0x00F5, 0x6F, 0x0303⟩,
  ⟨0x00F6, 0x6F, 0x0308⟩, ⟨0x00F9, 0x75, 0x0300⟩, ⟨0x00FA, 0x75, 0x0301⟩, ⟨0x00FB, 0x75, 0x0302⟩,
  ⟨0x00FC, 0x75, 0x0308⟩, ⟨0x00FD, 0x79, 0x0301⟩, ⟨0x00FF, 0x79, 0x0308⟩, ⟨0x0101, 0x61, 0x0304⟩,
  ⟨0x0103, 0x61, 0x0306⟩, ⟨0x0105, 0x61, 0x0328⟩, ⟨0x0107, 0x63, 0x0301⟩, ⟨0x0109, 0x63, 0x0302⟩,
  ⟨0x010B, 0x63, 0x0307⟩, ⟨0x010D, 0x63, 0x030C⟩, ⟨0x010F, 0x64, 0x030C⟩, ⟨0x0113, 0x65, 0x0304⟩,
  ⟨0x0115, 0x65, 0x0306⟩, ⟨0x0117, 0x65, 0x0307⟩, ⟨0x0119, 0x65, 0x0328⟩, ⟨0x011B, 0x65, 0x030C⟩,
  ⟨0x011D, 0x67, 0x0302⟩, ⟨0x011F, 0x67, 0x0306⟩, ⟨0x0121, 0x67, 0x0307⟩, ⟨0x0123, 0x67, 0x0327⟩,
  ⟨0x0125, 0x68, 0x0302⟩, ⟨0x0129, 0x69, 0x0303⟩, ⟨0x012B, 0x69, 0x0304⟩, ⟨0x012D, 0x69, 0x0306⟩,
  ⟨0x012F, 0x69, 0x0328⟩, ⟨0x0135, 0x6A, 0x0302⟩, ⟨0x0137, 0x6B, 0x0327⟩, ⟨0x013A, 0x6C, 0x0301⟩,
  ⟨0x013C, 0x6C, 0x0327⟩, ⟨0x013E, 0x6C, 0x030C⟩, ⟨0x0144, 0x6E, 0x0301⟩, ⟨0x0146, 0x6E, 0x0327⟩,
  ⟨0x0148, 0x6E, 0x030C⟩, ⟨0x014D, 0x6F, 0x0304⟩, ⟨0x014F, 0x6F, 0x0306⟩, ⟨0x0151, 0x6F, 0x030B⟩,
  ⟨0x0155, 0x72, 0x0301⟩, ⟨0x0157, 0x72, 0x0327⟩, ⟨0x0159, 0x72, 0x030C⟩, ⟨0x015B, 0x73, 0x0301⟩,
  ⟨0x015D, 0x73, 0x0302⟩, ⟨0x015F, 0x73, 0x0327⟩, ⟨0x0161, 0x73, 0x030C⟩, ⟨0x0163, 0x74, 0x0327⟩,
  ⟨0x0165, 0x74, 0x030C⟩, ⟨0x0169, 0x75, 0x0303⟩, ⟨0x016B, 0x75, 0x0304⟩, ⟨0x016D, 0x75, 0x0306⟩,
  ⟨0x016F, 0x75, 0x030A⟩, ⟨0x0171, 0x75, 0x030B⟩, ⟨0x0173, 0x75, 0x0328⟩, ⟨0x0175, 0x77, 0x0302⟩,
  ⟨0x0177, 0x79, 0x0302⟩, ⟨0x017A, 0x7A, 0x0301⟩, ⟨0x017C, 0x7A, 0x0307⟩, ⟨0x017E, 0x7A, 0x030C⟩,
  ⟨0x01A1, 0x6F, 0x031B⟩, ⟨0x01B0, 0x75, 0x031B⟩, ⟨0x01CE, 0x61, 0x030C⟩, ⟨0x01D0, 0x69, 0x030C⟩,
  ⟨0x01D2, 0x6F, 0x030C⟩, ⟨0x01D4, 0x75, 0x030C⟩, ⟨0x01D6, 0x00FC, 0x0304⟩,
  ⟨0x01D8, 0x00FC, 0x0301⟩, ⟨0x01DA, 0x00FC, 0x030C⟩, ⟨0x01DC, 0x00FC, 0x0300⟩,
  ⟨0x01DF, 0x00E4, 0x0304⟩, ⟨0x01E1, 0x0227, 0x0304⟩, ⟨0x01E3, 0x00E6, 0x0304⟩,
  ⟨0x01E7, 0x67, 0x030C⟩, ⟨0x01E9, 0x6B, 0x030C⟩, ⟨0x01EB, 0x6F, 0x0328⟩,
  ⟨0x01ED, 0x01EB, 0x0304⟩, ⟨0x01EF, 0x0292, 0x030C⟩, ⟨0x01F0, 0x6A, 0x030C⟩,
  ⟨0x01F5, 0x67, 0x0301⟩, ⟨0x01F9, 0x6E, 0x0300⟩, ⟨0x01FB, 0x00E5, 0x0301⟩,
  ⟨0x01FD, 0x00E6, 0x0301⟩, ⟨0x01FF, 0x00F8, 0x0301⟩, ⟨0x0201, 0x61, 0x030F⟩,
  ⟨0x0203, 0x61, 0x0311⟩, ⟨0x0205, 0x65, 0x030F⟩, ⟨0x0207, 0x65, 0x0311⟩, ⟨0x0209, 0x69, 0x030F⟩,
  ⟨0x020B, 0x69, 0x0311⟩, ⟨0x020D, 0x6F, 0x030F⟩, ⟨0x020F, 0x6F, 0x0311⟩, ⟨0x0211, 0x72, 0x030F⟩,
  ⟨0x0213, 0x72, 0x0311⟩, ⟨0x0215, 0x75, 0x030F⟩, ⟨0x0217, 0x75, 0x0311⟩, ⟨0x0219, 0x73, 0x0326⟩,
  ⟨0x021B, 0x74, 0x0326⟩, ⟨0x021F, 0x68, 0x030C⟩, ⟨0x0227, 0x61, 0x0307⟩, ⟨0x0229, 0x65, 0x0327⟩,
  ⟨0x022B, 0x00F6, 0x0304⟩, ⟨0x022D, 0x00F5, 0x0304⟩, ⟨0x022F, 0x6F, 0x0307⟩,
  ⟨0x0231, 0x022F, 0x0304⟩, ⟨0x0233, 0x79, 0x0304⟩, ⟨0x0390, 0x03CA, 0x0301⟩,
  ⟨0x03AC, 0x03B1, 0x0301⟩, ⟨0x03AD, 0x03B5, 0x0301⟩, ⟨0x03AE, 0x03B7, 0x0301⟩,
  ⟨0x03AF, 0x03B9, 0x0301⟩, ⟨0x03B0, 0x03CB, 0x0301⟩, ⟨0x03CA, 0x03B9, 0x0308⟩,
  ⟨0x03CB, 0x03C5, 0x0308⟩, ⟨0x03CC, 0x03BF, 0x0301⟩, ⟨0x03CD, 0x03C5, 0x0301⟩,
  ⟨0x03CE, 0x03C9, 0x0301⟩, ⟨0x0439, 0x0438, 0x0306⟩, ⟨0x0450, 0x0435, 0x0300⟩,
  ⟨0x0451, 0x0435, 0x0308⟩, ⟨0x0453, 0x0433, 0x0301⟩, ⟨0x0457, 0x0456, 0x0308⟩,
  ⟨0x045C, 0x043A, 0x0301⟩, ⟨0x045D, 0x0438, 0x0300⟩, ⟨0x045E, 0x0443, 0x0306⟩,
  ⟨0x0477, 0x0475, 0x030F⟩, ⟨0x04C2, 0x0436, 0x0306⟩, ⟨0x04D1, 0x0430, 0x0306⟩,
  ⟨0x04D3, 0x0430, 0x0308⟩, ⟨0x04D7, 0x0435, 0x0306⟩, ⟨0x04DB, 0x04D9, 0x0308⟩,
  ⟨0x04DD, 0x0436, 0x0308⟩, ⟨0x04DF, 0x0437, 0x0308⟩, ⟨0x04E3, 0x0438, 0x0304⟩,
  ⟨0x04E5, 0x0438, 0x0308⟩, ⟨0x04E7, 0x043E, 0x0308⟩, ⟨0x04EB, 0x04E9, 0x0308⟩,
  ⟨0x04ED, 0x044D, 0x0308⟩, ⟨0x04EF, 0x0443, 0x0304⟩, ⟨0x04F1, 0x0443, 0x0308⟩,
  ⟨0x04F3, 0x0443, 0x030B⟩, ⟨0x04F5, 0x0447, 0x0308⟩, ⟨0x04F9, 0x044B, 0x0308⟩,
  ⟨0x0622, 0x0627, 0x0653⟩, ⟨0x0623, 0x0627, 0x0654⟩, ⟨0x0624, 0x0648, 0x0654⟩,
  ⟨0x0625, 0x0627, 0x0655⟩, ⟨0x0626, 0x064A, 0x0654⟩, ⟨0x06C0, 0x06D5, 0x0654⟩,
  ⟨0x06C2, 0x06C1, 0x0654⟩, ⟨0x06D3, 0x06D2, 0x0654⟩, ⟨0x0929, 0x0928, 0x093C⟩,
  ⟨0x0931, 0x0930, 0x093C⟩, ⟨0x0934, 0x0933, 0x093C⟩, ⟨0x09CB, 0x09C7, 0x09BE⟩,
  ⟨0x09CC, 0x09C7, 0x09D7⟩, ⟨0x0B48, 0x0B47, 0x0B56⟩, ⟨0x0B4B, 0x0B47, 0x0B3E⟩,
  ⟨0x0B4C, 0x0B47, 0x0B57⟩, ⟨0x0B94, 0x0B92, 0x0BD7⟩, ⟨0x0BCA, 0x0BC6, 0x0BBE⟩,
  ⟨0x0BCB, 0x0BC7, 0x0BBE⟩, ⟨0x0BCC, 0x0BC6, 0x0BD7⟩, ⟨0x0C48, 0x0C46, 0x0C56⟩,
  ⟨0x0CC0, 0x0CBF, 0x0CD5⟩, ⟨0x0CC7, 0x0CC6, 0x0CD5⟩, ⟨0x0CC8, 0x0CC6, 0x0CD6⟩,
  ⟨0x0CCA, 0x0CC6, 0x0CC2⟩, ⟨0x0CCB, 0x0CCA, 0x0CD5⟩, ⟨0x0D4A, 0x0D46, 0x0D3E⟩,
  ⟨0x0D4B, 0x0D47, 0x0D3E⟩, ⟨0x0D4C, 0x0D46, 0x0D57⟩, ⟨0x0DDA, 0x0DD9, 0x0DCA⟩,
  ⟨0x0DDC, 0x0DD9, 0x0DCF⟩, ⟨0x0DDD, 0x0DDC, 0x0DCA⟩, ⟨0x0DDE, 0x0DD9, 0x0DDF⟩,
  ⟨0x1026, 0x1025, 0x102E⟩, ⟨0x1B06, 0x1B05, 0x1B35⟩, ⟨0x1B08, 0x1B07, 0x1B35⟩,
  ⟨0x1B0A, 0x1B09, 0x1B35⟩, ⟨0x1B0C, 0x1B0B, 0x1B35⟩, ⟨0x1B0E, 0x1B0D, 0x1B35⟩,
  ⟨0x1B12, 0x1B11, 0x1B35⟩, ⟨0x1B3B, 0x1B3A, 0x1B35⟩, ⟨0x1B3D, 0x1B3C, 0x1B35⟩,
  ⟨0x1B40, 0x1B3E, 0x1B35⟩, ⟨0x1B41, 0x1B3F, 0x1B35⟩, ⟨0x1B43, 0x1B42, 0x1B35⟩,
  ⟨0x1E01, 0x61, 0x0325⟩, ⟨0x1E03, 0x62, 0x0307⟩, ⟨0x1E05, 0x62, 0x0323⟩, ⟨0x1E07, 0x62, 0x0331⟩,
  ⟨0x1E09, 0x00E7, 0x0301⟩, ⟨0x1E0B, 0x64, 0x0307⟩, ⟨0x1E0D, 0x64, 0x0323⟩,
  ⟨0x1E0F, 0x64, 0x0331⟩, ⟨0x1E11, 0x64, 0x0327⟩, ⟨0x1E13, 0x64, 0x032D⟩,
  ⟨0x1E15, 0x0113, 0x0300⟩, ⟨0x1E17, 0x0113, 0x0301⟩, ⟨0x1E19, 0x65, 0x032D⟩,
  ⟨0x1E1B, 0x65, 0x0330⟩, ⟨0x1E1D, 0x0229, 0x0306⟩, ⟨0x1E1F, 0x66, 0x0307⟩,
  ⟨0x1E21, 0x67, 0x0304⟩, ⟨0x1E23, 0x68, 0x0307⟩, ⟨0x1E25, 0x68, 0x0323⟩, ⟨0x1E27, 0x68, 0x0308⟩,
  ⟨0x1E29, 0x68, 0x0327⟩, ⟨0x1E2B, 0x68, 0x032E⟩, ⟨0x1E2D, 0x69, 0x0330⟩,
  ⟨0x1E2F, 0x00EF, 0x0301⟩, ⟨0x1E31, 0x6B, 0x0301⟩, ⟨0x1E33, 0x6B, 0x0323⟩,
  ⟨0x1E35, 0x6B, 0x0331⟩, ⟨0x1E37, 0x6C, 0x0323⟩, ⟨0x1E39, 0x1E37, 0x0304⟩,
  ⟨0x1E3B, 0x6C, 0x0331⟩, ⟨0x1E3D, 0x6C, 0x032D⟩, ⟨0x1E3F, 0x6D, 0x0301⟩, ⟨0x1E41, 0x6D, 0x0307⟩,
  ⟨0x1E43, 0x6D, 0x0323⟩, ⟨0x1E45, 0x6E, 0x0307⟩, ⟨0x1E47, 0x6E, 0x0323⟩, ⟨0x1E49, 0x6E, 0x0331⟩,
  ⟨0x1E4B, 0x6E, 0x032D⟩, ⟨0x1E4D, 0x00F5, 0x0301⟩, ⟨0x1E4F, 0x00F5, 0x0308⟩,
  ⟨0x1E51, 0x014D, 0x0300⟩, ⟨0x1E53, 0x014D, 0x0301⟩, ⟨0x1E55, 0x70, 0x0301⟩,
  ⟨0x1E57, 0x70, 0x0307⟩, ⟨0x1E59, 0x72, 0x0307⟩, ⟨0x1E5B, 0x72, 0x0323⟩,
  ⟨0x1E5D, 0x1E5B, 0x0304⟩, ⟨0x1E5F, 0x72, 0x0331⟩, ⟨0x1E61, 0x73, 0x0307⟩,
  ⟨0x1E63, 0x73, 0x0323⟩, ⟨0x1E65, 0x015B, 0x0307⟩, ⟨0x1E67, 0x0161, 0x0307⟩,
  ⟨0x1E69, 0x1E63, 0x0307⟩, ⟨0x1E6B, 0x74, 0x0307⟩, ⟨0x1E6D, 0x74, 0x0323⟩,
  ⟨0x1E6F, 0x74, 0x0331⟩, ⟨0x1E71, 0x74, 0x032D⟩, ⟨0x1E73, 0x75, 0x0324⟩, ⟨0x1E75, 0x75, 0x0330⟩,
  ⟨0x1E77, 0x75, 0x032D⟩, ⟨0x1E79, 0x0169, 0x0301⟩, ⟨0x1E7B, 0x016B, 0x0308⟩,
  ⟨0x1E7D, 0x76, 0x0303⟩, ⟨0x1E7F, 0x76, 0x0323⟩, ⟨0x1E81, 0x77, 0x0300⟩, ⟨0x1E83, 0x77, 0x0301⟩,
  ⟨0x1E85, 0x77, 0x0308⟩, ⟨0x1E87, 0x77, 0x0307⟩, ⟨0x1E89, 0x77, 0x0323⟩, ⟨0x1E8B, 0x78, 0x0307⟩,
  ⟨0x1E8D, 0x78, 0x0308⟩, ⟨0x1E8F, 0x79, 0x0307⟩, ⟨0x1E91, 0x7A, 0x0302⟩, ⟨0x1E93, 0x7A, 0x0323⟩,
  ⟨0x1E95, 0x7A, 0x0331⟩, ⟨0x1E96, 0x68, 0x0331⟩, ⟨0x1E97, 0x74, 0x0308⟩, ⟨0x1E98, 0x77, 0x030A⟩,
  ⟨0x1E99, 0x79, 0x030A⟩, ⟨0x1EA1, 0x61, 0x0323⟩, ⟨0x1EA3, 0x61, 0x0309⟩,
  ⟨0x1EA5, 0x00E2, 0x0301⟩, ⟨0x1EA7, 0x00E2, 0x0300⟩, ⟨0x1EA9, 0x00E2, 0x0309⟩,
  ⟨0x1EAB, 0x00E2, 0x0303⟩, ⟨0x1EAD, 0x1EA1, 0x0302⟩, ⟨0x1EAF, 0x0103, 0x0301⟩,
  ⟨0x1EB1, 0x0103, 0x0300⟩, ⟨0x1EB3, 0x0103, 0x0309⟩, ⟨0x1EB5, 0x0103, 0x0303⟩,
  ⟨0x1EB7, 0x1EA1, 0x0306⟩, ⟨0x1EB9, 0x65, 0x0323⟩, ⟨0x1EBB, 0x65, 0x0309⟩,
  ⟨0x1EBD, 0x65, 0x0303⟩, ⟨0x1EBF, 0x00EA, 0x0301⟩, ⟨0x1EC1, 0x00EA, 0x0300⟩,
  ⟨0x1EC3, 0x00EA, 0x0309⟩, ⟨0x1EC5, 0x00EA, 0x0303⟩, ⟨0x1EC7, 0x1EB9, 0x0302⟩,
  ⟨0x1EC9, 0x69, 0x0309⟩, ⟨0x1ECB, 0x69, 0x0323⟩, ⟨0x1ECD, 0x6F, 0x0323⟩, ⟨0x1ECF, 0x6F, 0x0309⟩,
  ⟨0x1ED1, 0x00F4, 0x0301⟩, ⟨0x1ED3, 0x00F4, 0x0300⟩, ⟨0x1ED5, 0x00F4, 0x0309⟩,
  ⟨0x1ED7, 0x00F4, 0x0303⟩, ⟨0x1ED9, 0x1ECD, 0x0302⟩, ⟨0x1EDB, 0x01A1, 0x0301⟩,
  ⟨0x1EDD, 0x01A1, 0x0300⟩, ⟨0x1EDF, 0x01A1, 0x0309⟩, ⟨0x1EE1, 0x01A1, 0x0303⟩,
  ⟨0x1EE3, 0x01A1, 0x0323⟩, ⟨0x1EE5, 0x75, 0x0323⟩, ⟨0x1EE7, 0x75, 0x0309⟩,
  ⟨0x1EE9, 0x01B0, 0x0301⟩, ⟨0x1EEB, 0x01B0, 0x0300⟩, ⟨0x1EED, 0x01B0, 0x0309⟩,
  ⟨0x1EEF, 0x01B0, 0x0303⟩, ⟨0x1EF1, 0x01B0, 0x0323⟩, ⟨0x1EF3, 0x79, 0x0300⟩,
  ⟨0x1EF5, 0x79, 0x0323⟩, ⟨0x1EF7, 0x79, 0x0309⟩, ⟨0x1EF9, 0x79, 0x0303⟩,
  ⟨0x1F00, 0x03B1, 0x0313⟩, ⟨0x1F01, 0x03B1, 0x0314⟩, ⟨0x1F02, 0x1F00, 0x0300⟩,
  ⟨0x1F03, 0x1F01, 0x0300⟩, ⟨0x1F04, 0x1F00, 0x0301⟩, ⟨0x1F05, 0x1F01, 0x0301⟩,
  ⟨0x1F06, 0x1F00, 0x0342⟩, ⟨0x1F07, 0x1F01, 0x0342⟩, ⟨0x1F10, 0x03B5, 0x0313⟩,
  ⟨0x1F11, 0x03B5, 0x0314⟩, ⟨0x1F12, 0x1F10, 0x0300⟩, ⟨0x1F13, 0x1F11, 0x0300⟩,
  ⟨0x1F14, 0x1F10, 0x0301⟩, ⟨0x1F15, 0x1F11, 0x0301⟩, ⟨0x1F20, 0x03B7, 0x0313⟩,
  ⟨0x1F21, 0x03B7, 0x0314⟩, ⟨0x1F22, 0x1F20, 0x0300⟩, ⟨0x1F23, 0x1F21, 0x0300⟩,
  ⟨0x1F24, 0x1F20, 0x0301⟩, ⟨0x1F25, 0x1F21, 0x0301⟩, ⟨0x1F26, 0x1F20, 0x0342⟩,
  ⟨0x1F27, 0x1F21, 0x0342⟩, ⟨0x1F30, 0x03B9, 0x0313⟩, ⟨0x1F31, 0x03B9, 0x0314⟩,
  ⟨0x1F32, 0x1F30, 0x0300⟩, ⟨0x1F33, 0x1F31, 0x0300⟩, ⟨0x1F34, 0x1F30, 0x0301⟩,
  ⟨0x1F35, 0x1F31, 0x0301⟩, ⟨0x1F36, 0x1F30, 0x0342⟩, ⟨0x1F37, 0x1F31, 0x0342⟩,
  ⟨0x1F40, 0x03BF, 0x0313⟩, ⟨0x1F41, 0x03BF, 0x0314⟩, ⟨0x1F42, 0x1F40, 0x0300⟩,
  ⟨0x1F43, 0x1F41, 0x0300⟩, ⟨0x1F44, 0x1F40, 0x0301⟩, ⟨0x1F45, 0x1F41, 0x0301⟩,
  ⟨0x1F50, 0x03C5, 0x0313⟩, ⟨0x1F51, 0x03C5, 0x0314⟩, ⟨0x1F52, 0x1F50, 0x0300⟩,
  ⟨0x1F53, 0x1F51, 0x0300⟩, ⟨0x1F54, 0x1F50, 0x0301⟩, ⟨0x1F55, 0x1F51, 0x0301⟩,
  ⟨0x1F56, 0x1F50, 0x0342⟩, ⟨0x1F57, 0x1F51, 0x0342⟩, ⟨0x1F60, 0x03C9, 0x0313⟩,
  ⟨0x1F61, 0x03C9, 0x0314⟩, ⟨0x1F62, 0x1F60, 0x0300⟩, ⟨0x1F63, 0x1F61, 0x0300⟩,
  ⟨0x1F64, 0x1F60, 0x0301⟩, ⟨0x1F65, 0x1F61, 0x0301⟩, ⟨0x1F66, 0x1F60, 0x0342⟩,
  ⟨0x1F67, 0x1F61, 0x0342⟩, ⟨0x1F70, 0x03B1, 0x0300⟩, ⟨0x1F72, 0x03B5, 0x0300⟩,
  ⟨0x1F74, 0x03B7, 0x0300⟩, ⟨0x1F76, 0x03B9, 0x0300⟩, ⟨0x1F78, 0x03BF, 0x0300⟩,
  ⟨0x1F7A, 0x03C5, 0x0300⟩, ⟨0x1F7C, 0x03C9, 0x0300⟩, ⟨0x1FB0, 0x03B1, 0x0306⟩,
  ⟨0x1FB1, 0x03B1, 0x0304⟩, ⟨0x1FB6, 0x03B1, 0x0342⟩, ⟨0x1FC6, 0x03B7, 0x0342⟩,
  ⟨0x1FD0, 0x03B9, 0x0306⟩, ⟨0x1FD1, 0x03B9, 0x0304⟩, ⟨0x1FD2, 0x03CA, 0x0300⟩,
  ⟨0x1FD6, 0x03B9, 0x0342⟩, ⟨0x1FD7, 0x03CA, 0x0342⟩, ⟨0x1FE0, 0x03C5, 0x0306⟩,
  ⟨0x1FE1, 0x03C5, 0x0304⟩, ⟨0x1FE2, 0x03CB, 0x0300⟩, ⟨0x1FE4, 0x03C1, 0x0313⟩,
  ⟨0x1FE5, 0x03C1, 0x0314⟩, ⟨0x1FE6, 0x03C5, 0x0342⟩, ⟨0x1FE7, 0x03CB, 0x0342⟩,
  ⟨0x1FF6, 0x03C9, 0x0342⟩, ⟨0x304C, 0x304B, 0x3099⟩, ⟨0x304E, 0x304D, 0x3099⟩,
  ⟨0x3050, 0x304F, 0x3099⟩, ⟨0x3052, 0x3051, 0x3099⟩, ⟨0x3054, 0x3053, 0x3099⟩,
  ⟨0x3056, 0x3055, 0x3099⟩, ⟨0x3058, 0x3057, 0x3099⟩, ⟨0x305A, 0x3059, 0x3099⟩,
  ⟨0x305C, 0x305B, 0x3099⟩, ⟨0x305E, 0x305D, 0x3099⟩, ⟨0x3060, 0x305F, 0x3099⟩,
  ⟨0x3062, 0x3061, 0x3099⟩, ⟨0x3065, 0x3064, 0x3099⟩, ⟨0x3067, 0x3066, 0x3099⟩,
  ⟨0x3069, 0x3068, 0x3099⟩, ⟨0x3070, 0x306F, 0x3099⟩, ⟨0x3071, 0x306F, 0x309A⟩,
  ⟨0x3073, 0x3072, 0x3099⟩, ⟨0x3074, 0x3072, 0x309A⟩, ⟨0x3076, 0x3075, 0x3099⟩,
  ⟨0x3077, 0x3075, 0x309A⟩, ⟨0x3079, 0x3078, 0x3099⟩, ⟨0x307A, 0x3078, 0x309A⟩,
  ⟨0x307C, 0x307B, 0x3099⟩, ⟨0x307D, 0x307B, 0x309A⟩, ⟨0x3094, 0x3046, 0x3099⟩,
  ⟨0x309E, 0x309D, 0x3099⟩, ⟨0x30AC, 0x30AB, 0x3099⟩, ⟨0x30AE, 0x30AD, 0x3099⟩,
  ⟨0x30B0, 0x30AF, 0x3099⟩, ⟨0x30B2, 0x30B1, 0x3099⟩, ⟨0x30B4, 0x30B3, 0x3099⟩,
  ⟨0x30B6, 0x30B5, 0x3099⟩, ⟨0x30B8, 0x30B7, 0x3099⟩, ⟨0x30BA, 0x30B9, 0x3099⟩,
  ⟨0x30BC, 0x30BB, 0x3099⟩, ⟨0x30BE, 0x30BD, 0x3099⟩, ⟨0x30C0, 0x30BF, 0x3099⟩,
  ⟨0x30C2, 0x30C1, 0x3099⟩, ⟨0x30C5, 0x30C4, 0x3099⟩, ⟨0x30C7, 0x30C6, 0x3099⟩,
  ⟨0x30C9, 0x30C8, 0x3099⟩, ⟨0x30D0, 0x30CF, 0x3099⟩, ⟨0x30D1, 0x30CF, 0x309A⟩,
  ⟨0x30D3, 0x30D2, 0x3099⟩, ⟨0x30D4, 0x30D2, 0x309A⟩, ⟨0x30D6, 0x30D5, 0x3099⟩,
  ⟨0x30D7, 0x30D5, 0x309A⟩, ⟨0x30D9, 0x30D8, 0x3099⟩, ⟨0x30DA, 0x30D8, 0x309A⟩,
  ⟨0x30DC, 0x30DB, 0x3099⟩, ⟨0x30DD, 0x30DB, 0x309A⟩, ⟨0x30F4, 0x30A6, 0x3099⟩,
  ⟨0x30F7, 0x30EF, 0x3099⟩, ⟨0x30F8, 0x30F0, 0x3099⟩, ⟨0x30F9, 0x30F1, 0x3099⟩,
  ⟨0x30FA, 0x30F2, 0x3099⟩, ⟨0x30FE, 0x30FD, 0x3099⟩, ⟨0x1109A, 0x11099, 0x110BA⟩,
  ⟨0x1109C, 0x1109B, 0x110BA⟩, ⟨0x110AB, 0x110A5, 0x110BA⟩, ⟨0x1112E, 0x11131, 0x11127⟩,
  ⟨0x1112F, 0x11132, 0x11127⟩, ⟨0x1134B, 0x11347, 0x1133E⟩, ⟨0x1134C, 0x11347, 0x11357⟩,
  ⟨0x114BB, 0x114B9, 0x114BA⟩, ⟨0x114BC, 0x114B9, 0x114B0⟩, ⟨0x114BE, 0x114B9, 0x114BD⟩,
  ⟨0x115BA, 0x115B8, 0x115AF⟩, ⟨0x115BB, 0x115B9, 0x115AF⟩, ⟨0x11938, 0x11935, 0x11930⟩]

/-- A character as a base and a mark, if it is both. -/
def takenApart (c : Char) : List Char :=
  match composites.find? fun k => k.whole == c.toNat with
  | some k => [Char.ofNat k.base, Char.ofNat k.mark]
  | none => [c]

/-- How often a letter can be taken apart: it has at most three marks. -/
def markLimit : Nat := 3

/-- Texts taken apart some number of times. -/
def decomposedTimes : Nat → List Char → List Char
  | 0, cs => cs
  | n + 1, cs => decomposedTimes n (cs.flatMap takenApart)

/-- A text with every letter apart from its marks. -/
def decomposed (cs : List Char) : List Char := decomposedTimes markLimit cs

/-- Put a character before others, behind the marks of lower classes with which they start. -/
def placeMark (c : Char) : List Char → List Char
  | [] => [c]
  | d :: rest =>
    if combiningClass d != 0 && decide (combiningClass d < combiningClass c) then
      d :: placeMark c rest
    else c :: d :: rest

/-- A text with the marks on each letter in the order of their classes. -/
def reordered (cs : List Char) : List Char := cs.foldr placeMark []

/-- The one character for a base and a mark. -/
def composite? (base mark : Char) : Option Char :=
  (composites.find? fun k => k.base == base.toNat && k.mark == mark.toNat).map fun k =>
    Char.ofNat k.whole

/-- Put a letter together with the marks after it; `kept` are those that have stayed apart, the last
one first. A mark cannot pass one of its own class. -/
def composedAfter (letter : Char) (kept : List Char) : List Char → List Char
  | [] => letter :: kept.reverse
  | c :: rest =>
    let isNear := kept.head?.all fun d => combiningClass d < combiningClass c
    match if isNear then composite? letter c else none with
    | some whole => composedAfter whole kept rest
    | none =>
      if combiningClass c = 0 then letter :: kept.reverse ++ composedAfter c [] rest
      else composedAfter letter (c :: kept) rest

/-- A text with letters and marks put together. -/
def composed : List Char → List Char
  | [] => []
  | c :: rest => composedAfter c [] rest

/-- Ranges of characters that stand for others, with which composed text is written. -/
def substituteRanges : List (Nat × Nat) := [
  (0x0340, 0x0341), (0x0343, 0x0344), (0x0374, 0x0374), (0x037E, 0x037E), (0x0387, 0x0387),
  (0x0958, 0x095F), (0x09DC, 0x09DF), (0x0A33, 0x0A33), (0x0A36, 0x0A36), (0x0A59, 0x0A5B),
  (0x0A5E, 0x0A5E), (0x0B5C, 0x0B5D), (0x0F43, 0x0F43), (0x0F4D, 0x0F4D), (0x0F52, 0x0F52),
  (0x0F57, 0x0F57), (0x0F5C, 0x0F5C), (0x0F69, 0x0F69), (0x0F73, 0x0F73), (0x0F75, 0x0F76),
  (0x0F78, 0x0F78), (0x0F81, 0x0F81), (0x0F93, 0x0F93), (0x0F9D, 0x0F9D), (0x0FA2, 0x0FA2),
  (0x0FA7, 0x0FA7), (0x0FAC, 0x0FAC), (0x0FB9, 0x0FB9), (0x1F71, 0x1F71), (0x1F73, 0x1F73),
  (0x1F75, 0x1F75), (0x1F77, 0x1F77), (0x1F79, 0x1F79), (0x1F7B, 0x1F7B), (0x1F7D, 0x1F7D),
  (0x1FBB, 0x1FBB), (0x1FBE, 0x1FBE), (0x1FC9, 0x1FC9), (0x1FCB, 0x1FCB), (0x1FD3, 0x1FD3),
  (0x1FDB, 0x1FDB), (0x1FE3, 0x1FE3), (0x1FEB, 0x1FEB), (0x1FEE, 0x1FEF), (0x1FF9, 0x1FF9),
  (0x1FFB, 0x1FFB), (0x1FFD, 0x1FFD), (0x2000, 0x2001), (0x2126, 0x2126), (0x212A, 0x212B),
  (0x2329, 0x232A), (0x2ADC, 0x2ADC), (0xF900, 0xFA0D), (0xFA10, 0xFA10), (0xFA12, 0xFA12),
  (0xFA15, 0xFA1E), (0xFA20, 0xFA20), (0xFA22, 0xFA22), (0xFA25, 0xFA26), (0xFA2A, 0xFAD9),
  (0xFB1D, 0xFB1D), (0xFB1F, 0xFB1F), (0xFB2A, 0xFB4E), (0x1D15E, 0x1D164), (0x1D1BB, 0x1D1C0),
  (0x2F800, 0x2FA1D)]

/-- Whether a text is composed. -/
def isComposed (cs : List Char) : Bool :=
  !cs.any (inRanges substituteRanges) && composed (reordered (decomposed cs)) == cs

example : isComposed ['\u00e9'] && !isComposed ['e', '\u0301'] && isComposed ['q', '\u0301'] := by
  decide +kernel

example : composed (reordered (decomposed ['e', '\u0301', '\u0323'])) = ['\u1eb9', '\u0301'] := by
  decide +kernel

end FeatureAudit.Text

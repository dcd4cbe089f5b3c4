/-!
# General categories

Unicode's general categories of characters.  The table lists the runs of code points
of one category: where each begins, and in a second list which category it has.
-/

namespace ChatGateway.Text

/-- A general category of Unicode. -/
inductive Category where
  | uppercaseLetter
  | lowercaseLetter
  | titlecaseLetter
  | modifierLetter
  | otherLetter
  | nonspacingMark
  | spacingMark
  | enclosingMark
  | decimalNumber
  | letterNumber
  | otherNumber
  | connectorPunctuation
  | dashPunctuation
  | openPunctuation
  | closePunctuation
  | initialPunctuation
  | finalPunctuation
  | otherPunctuation
  | mathSymbol
  | currencySymbol
  | modifierSymbol
  | otherSymbol
  | spaceSeparator
  | lineSeparator
  | paragraphSeparator
  | control
  | format
  | surrogate
  | privateUse
  | unassigned
deriving DecidableEq, Repr

namespace Category

/-- The two letters that stand for a category. -/
def code : Category → String
  | .uppercaseLetter => "Lu"
  | .lowercaseLetter => "Ll"
  | .titlecaseLetter => "Lt"
  | .modifierLetter => "Lm"
  | .otherLetter => "Lo"
  | .nonspacingMark => "Mn"
  | .spacingMark => "Mc"
  | .enclosingMark => "Me"
  | .decimalNumber => "Nd"
  | .letterNumber => "Nl"
  | .otherNumber => "No"
  | .connectorPunctuation => "Pc"
  | .dashPunctuation => "Pd"
  | .openPunctuation => "Ps"
  | .closePunctuation => "Pe"
  | .initialPunctuation => "Pi"
  | .finalPunctuation => "Pf"
  | .otherPunctuation => "Po"
  | .mathSymbol => "Sm"
  | .currencySymbol => "Sc"
  | .modifierSymbol => "Sk"
  | .otherSymbol => "So"
  | .spaceSeparator => "Zs"
  | .lineSeparator => "Zl"
  | .paragraphSeparator => "Zp"
  | .control => "Cc"
  | .format => "Cf"
  | .surrogate => "Cs"
  | .privateUse => "Co"
  | .unassigned => "Cn"

/-- All categories. -/
def all : List Category := [
  .uppercaseLetter, .lowercaseLetter, .titlecaseLetter, .modifierLetter, .otherLetter,
  .nonspacingMark, .spacingMark, .enclosingMark, .decimalNumber, .letterNumber, .otherNumber,
  .connectorPunctuation, .dashPunctuation, .openPunctuation, .closePunctuation, .initialPunctuation,
  .finalPunctuation, .otherPunctuation, .mathSymbol, .currencySymbol, .modifierSymbol, .otherSymbol,
  .spaceSeparator, .lineSeparator, .paragraphSeparator, .control, .format, .surrogate, .privateUse,
  .unassigned]

/-- The category that two letters stand for. -/
def ofCode (s : String) : Category := (all.find? (·.code == s)).getD .unassigned

/-! ## The table -/

/-- Where the runs below U+1000 begin, in increasing order. -/
def firstStarts : List Nat := [
  0x0, 0x20, 0x21, 0x24, 0x25, 0x28, 0x29, 0x2A, 0x2B, 0x2C, 0x2D, 0x2E, 0x30, 0x3A, 0x3C, 0x3F,
  0x41, 0x5B, 0x5C, 0x5D, 0x5E, 0x5F, 0x60, 0x61, 0x7B, 0x7C, 0x7D, 0x7E, 0x7F, 0xA0, 0xA1, 0xA2,
  0xA6, 0xA7, 0xA8, 0xA9, 0xAA, 0xAB, 0xAC, 0xAD, 0xAE, 0xAF, 0xB0, 0xB1, 0xB2, 0xB4, 0xB5, 0xB6,
  0xB8, 0xB9, 0xBA, 0xBB, 0xBC, 0xBF, 0xC0, 0xD7, 0xD8, 0xDF, 0xF7, 0xF8, 0x100, 0x101, 0x102,
  0x103, 0x104, 0x105, 0x106, 0x107, 0x108, 0x109, 0x10A, 0x10B, 0x10C, 0x10D, 0x10E, 0x10F, 0x110,
  0x111, 0x112, 0x113, 0x114, 0x115, 0x116, 0x117, 0x118, 0x119, 0x11A, 0x11B, 0x11C, 0x11D, 0x11E,
  0x11F, 0x120, 0x121, 0x122, 0x123, 0x124, 0x125, 0x126, 0x127, 0x128, 0x129, 0x12A, 0x12B, 0x12C,
  0x12D, 0x12E, 0x12F, 0x130, 0x131, 0x132, 0x133, 0x134, 0x135, 0x136, 0x137, 0x139, 0x13A, 0x13B,
  0x13C, 0x13D, 0x13E, 0x13F, 0x140, 0x141, 0x142, 0x143, 0x144, 0x145, 0x146, 0x147, 0x148, 0x14A,
  0x14B, 0x14C, 0x14D, 0x14E, 0x14F, 0x150, 0x151, 0x152, 0x153, 0x154, 0x155, 0x156, 0x157, 0x158,
  0x159, 0x15A, 0x15B, 0x15C, 0x15D, 0x15E, 0x15F, 0x160, 0x161, 0x162, 0x163, 0x164, 0x165, 0x166,
  0x167, 0x168, 0x169, 0x16A, 0x16B, 0x16C, 0x16D, 0x16E, 0x16F, 0x170, 0x171, 0x172, 0x173, 0x174,
  0x175, 0x176, 0x177, 0x178, 0x17A, 0x17B, 0x17C, 0x17D, 0x17E, 0x181, 0x183, 0x184, 0x185, 0x186,
  0x188, 0x189, 0x18C, 0x18E, 0x192, 0x193, 0x195, 0x196, 0x199, 0x19C, 0x19E, 0x19F, 0x1A1, 0x1A2,
  0x1A3, 0x1A4, 0x1A5, 0x1A6, 0x1A8, 0x1A9, 0x1AA, 0x1AC, 0x1AD, 0x1AE, 0x1B0, 0x1B1, 0x1B4, 0x1B5,
  0x1B6, 0x1B7, 0x1B9, 0x1BB, 0x1BC, 0x1BD, 0x1C0, 0x1C4, 0x1C5, 0x1C6, 0x1C7, 0x1C8, 0x1C9, 0x1CA,
  0x1CB, 0x1CC, 0x1CD, 0x1CE, 0x1CF, 0x1D0, 0x1D1, 0x1D2, 0x1D3, 0x1D4, 0x1D5, 0x1D6, 0x1D7, 0x1D8,
  0x1D9, 0x1DA, 0x1DB, 0x1DC, 0x1DE, 0x1DF, 0x1E0, 0x1E1, 0x1E2, 0x1E3, 0x1E4, 0x1E5, 0x1E6, 0x1E7,
  0x1E8, 0x1E9, 0x1EA, 0x1EB, 0x1EC, 0x1ED, 0x1EE, 0x1EF, 0x1F1, 0x1F2, 0x1F3, 0x1F4, 0x1F5, 0x1F6,
  0x1F9, 0x1FA, 0x1FB, 0x1FC, 0x1FD, 0x1FE, 0x1FF, 0x200, 0x201, 0x202, 0x203, 0x204, 0x205, 0x206,
  0x207, 0x208, 0x209, 0x20A, 0x20B, 0x20C, 0x20D, 0x20E, 0x20F, 0x210, 0x211, 0x212, 0x213, 0x214,
  0x215, 0x216, 0x217, 0x218, 0x219, 0x21A, 0x21B, 0x21C, 0x21D, 0x21E, 0x21F, 0x220, 0x221, 0x222,
  0x223, 0x224, 0x225, 0x226, 0x227, 0x228, 0x229, 0x22A, 0x22B, 0x22C, 0x22D, 0x22E, 0x22F, 0x230,
  0x231, 0x232, 0x233, 0x23A, 0x23C, 0x23D, 0x23F, 0x241, 0x242, 0x243, 0x247, 0x248, 0x249, 0x24A,
  0x24B, 0x24C, 0x24D, 0x24E, 0x24F, 0x294, 0x296, 0x2B0, 0x2C2, 0x2C6, 0x2D2, 0x2E0, 0x2E5, 0x2EC,
  0x2ED, 0x2EE, 0x2EF, 0x300, 0x370, 0x371, 0x372, 0x373, 0x374, 0x375, 0x376, 0x377, 0x378, 0x37A,
  0x37B, 0x37E, 0x37F, 0x380, 0x384, 0x386, 0x387, 0x388, 0x38B, 0x38C, 0x38D, 0x38E, 0x390, 0x391,
  0x3A2, 0x3A3, 0x3AC, 0x3CF, 0x3D0, 0x3D2, 0x3D5, 0x3D8, 0x3D9, 0x3DA, 0x3DB, 0x3DC, 0x3DD, 0x3DE,
  0x3DF, 0x3E0, 0x3E1, 0x3E2, 0x3E3, 0x3E4, 0x3E5, 0x3E6, 0x3E7, 0x3E8, 0x3E9, 0x3EA, 0x3EB, 0x3EC,
  0x3ED, 0x3EE, 0x3EF, 0x3F4, 0x3F5, 0x3F6, 0x3F7, 0x3F8, 0x3F9, 0x3FB, 0x3FD, 0x430, 0x460, 0x461,
  0x462, 0x463, 0x464, 0x465, 0x466, 0x467, 0x468, 0x469, 0x46A, 0x46B, 0x46C, 0x46D, 0x46E, 0x46F,
  0x470, 0x471, 0x472, 0x473, 0x474, 0x475, 0x476, 0x477, 0x478, 0x479, 0x47A, 0x47B, 0x47C, 0x47D,
  0x47E, 0x47F, 0x480, 0x481, 0x482, 0x483, 0x488, 0x48A, 0x48B, 0x48C, 0x48D, 0x48E, 0x48F, 0x490,
  0x491, 0x492, 0x493, 0x494, 0x495, 0x496, 0x497, 0x498, 0x499, 0x49A, 0x49B, 0x49C, 0x49D, 0x49E,
  0x49F, 0x4A0, 0x4A1, 0x4A2, 0x4A3, 0x4A4, 0x4A5, 0x4A6, 0x4A7, 0x4A8, 0x4A9, 0x4AA, 0x4AB, 0x4AC,
  0x4AD, 0x4AE, 0x4AF, 0x4B0, 0x4B1, 0x4B2, 0x4B3, 0x4B4, 0x4B5, 0x4B6, 0x4B7, 0x4B8, 0x4B9, 0x4BA,
  0x4BB, 0x4BC, 0x4BD, 0x4BE, 0x4BF, 0x4C0, 0x4C2, 0x4C3, 0x4C4, 0x4C5, 0x4C6, 0x4C7, 0x4C8, 0x4C9,
  0x4CA, 0x4CB, 0x4CC, 0x4CD, 0x4CE, 0x4D0, 0x4D1, 0x4D2, 0x4D3, 0x4D4, 0x4D5, 0x4D6, 0x4D7, 0x4D8,
  0x4D9, 0x4DA, 0x4DB, 0x4DC, 0x4DD, 0x4DE, 0x4DF, 0x4E0, 0x4E1, 0x4E2, 0x4E3, 0x4E4, 0x4E5, 0x4E6,
  0x4E7, 0x4E8, 0x4E9, 0x4EA, 0x4EB, 0x4EC, 0x4ED, 0x4EE, 0x4EF, 0x4F0, 0x4F1, 0x4F2, 0x4F3, 0x4F4,
  0x4F5, 0x4F6, 0x4F7, 0x4F8, 0x4F9, 0x4FA, 0x4FB, 0x4FC, 0x4FD, 0x4FE, 0x4FF, 0x500, 0x501, 0x502,
  0x503, 0x504, 0x505, 0x506, 0x507, 0x508, 0x509, 0x50A, 0x50B, 0x50C, 0x50D, 0x50E, 0x50F, 0x510,
  0x511, 0x512, 0x513, 0x514, 0x515, 0x516, 0x517, 0x518, 0x519, 0x51A, 0x51B, 0x51C, 0x51D, 0x51E,
  0x51F, 0x520, 0x521, 0x522, 0x523, 0x524, 0x525, 0x526, 0x527, 0x528, 0x529, 0x52A, 0x52B, 0x52C,
  0x52D, 0x52E, 0x52F, 0x530, 0x531, 0x557, 0x559, 0x55A, 0x560, 0x589, 0x58A, 0x58B, 0x58D, 0x58F,
  0x590, 0x591, 0x5BE, 0x5BF, 0x5C0, 0x5C1, 0x5C3, 0x5C4, 0x5C6, 0x5C7, 0x5C8, 0x5D0, 0x5EB, 0x5EF,
  0x5F3, 0x5F5, 0x600, 0x606, 0x609, 0x60B, 0x60C, 0x60E, 0x610, 0x61B, 0x61C, 0x61D, 0x620, 0x640,
  0x641, 0x64B, 0x660, 0x66A, 0x66E, 0x670, 0x671, 0x6D4, 0x6D5, 0x6D6, 0x6DD, 0x6DE, 0x6DF, 0x6E5,
  0x6E7, 0x6E9, 0x6EA, 0x6EE, 0x6F0, 0x6FA, 0x6FD, 0x6FF, 0x700, 0x70E, 0x70F, 0x710, 0x711, 0x712,
  0x730, 0x74B, 0x74D, 0x7A6, 0x7B1, 0x7B2, 0x7C0, 0x7CA, 0x7EB, 0x7F4, 0x7F6, 0x7F7, 0x7FA, 0x7FB,
  0x7FD, 0x7FE, 0x800, 0x816, 0x81A, 0x81B, 0x824, 0x825, 0x828, 0x829, 0x82E, 0x830, 0x83F, 0x840,
  0x859, 0x85C, 0x85E, 0x85F, 0x860, 0x86B, 0x870, 0x888, 0x889, 0x890, 0x892, 0x897, 0x8A0, 0x8C9,
  0x8CA, 0x8E2, 0x8E3, 0x903, 0x904, 0x93A, 0x93B, 0x93C, 0x93D, 0x93E, 0x941, 0x949, 0x94D, 0x94E,
  0x950, 0x951, 0x958, 0x962, 0x964, 0x966, 0x970, 0x971, 0x972, 0x981, 0x982, 0x984, 0x985, 0x98D,
  0x98F, 0x991, 0x993, 0x9A9, 0x9AA, 0x9B1, 0x9B2, 0x9B3, 0x9B6, 0x9BA, 0x9BC, 0x9BD, 0x9BE, 0x9C1,
  0x9C5, 0x9C7, 0x9C9, 0x9CB, 0x9CD, 0x9CE, 0x9CF, 0x9D7, 0x9D8, 0x9DC, 0x9DE, 0x9DF, 0x9E2, 0x9E4,
  0x9E6, 0x9F0, 0x9F2, 0x9F4, 0x9FA, 0x9FB, 0x9FC, 0x9FD, 0x9FE, 0x9FF, 0xA01, 0xA03, 0xA04, 0xA05,
  0xA0B, 0xA0F, 0xA11, 0xA13, 0xA29, 0xA2A, 0xA31, 0xA32, 0xA34, 0xA35, 0xA37, 0xA38, 0xA3A, 0xA3C,
  0xA3D, 0xA3E, 0xA41, 0xA43, 0xA47, 0xA49, 0xA4B, 0xA4E, 0xA51, 0xA52, 0xA59, 0xA5D, 0xA5E, 0xA5F,
  0xA66, 0xA70, 0xA72, 0xA75, 0xA76, 0xA77, 0xA81, 0xA83, 0xA84, 0xA85, 0xA8E, 0xA8F, 0xA92, 0xA93,
  0xAA9, 0xAAA, 0xAB1, 0xAB2, 0xAB4, 0xAB5, 0xABA, 0xABC, 0xABD, 0xABE, 0xAC1, 0xAC6, 0xAC7, 0xAC9,
  0xACA, 0xACB, 0xACD, 0xACE, 0xAD0, 0xAD1, 0xAE0, 0xAE2, 0xAE4, 0xAE6, 0xAF0, 0xAF1, 0xAF2, 0xAF9,
  0xAFA, 0xB00, 0xB01, 0xB02, 0xB04, 0xB05, 0xB0D, 0xB0F, 0xB11, 0xB13, 0xB29, 0xB2A, 0xB31, 0xB32,
  0xB34, 0xB35, 0xB3A, 0xB3C, 0xB3D, 0xB3E, 0xB3F, 0xB40, 0xB41, 0xB45, 0xB47, 0xB49, 0xB4B, 0xB4D,
  0xB4E, 0xB55, 0xB57, 0xB58, 0xB5C, 0xB5E, 0xB5F, 0xB62, 0xB64, 0xB66, 0xB70, 0xB71, 0xB72, 0xB78,
  0xB82, 0xB83, 0xB84, 0xB85, 0xB8B, 0xB8E, 0xB91, 0xB92, 0xB96, 0xB99, 0xB9B, 0xB9C, 0xB9D, 0xB9E,
  0xBA0, 0xBA3, 0xBA5, 0xBA8, 0xBAB, 0xBAE, 0xBBA, 0xBBE, 0xBC0, 0xBC1, 0xBC3, 0xBC6, 0xBC9, 0xBCA,
  0xBCD, 0xBCE, 0xBD0, 0xBD1, 0xBD7, 0xBD8, 0xBE6, 0xBF0, 0xBF3, 0xBF9, 0xBFA, 0xBFB, 0xC00, 0xC01,
  0xC04, 0xC05, 0xC0D, 0xC0E, 0xC11, 0xC12, 0xC29, 0xC2A, 0xC3A, 0xC3C, 0xC3D, 0xC3E, 0xC41, 0xC45,
  0xC46, 0xC49, 0xC4A, 0xC4E, 0xC55, 0xC57, 0xC58, 0xC5B, 0xC5C, 0xC5E, 0xC60, 0xC62, 0xC64, 0xC66,
  0xC70, 0xC77, 0xC78, 0xC7F, 0xC80, 0xC81, 0xC82, 0xC84, 0xC85, 0xC8D, 0xC8E, 0xC91, 0xC92, 0xCA9,
  0xCAA, 0xCB4, 0xCB5, 0xCBA, 0xCBC, 0xCBD, 0xCBE, 0xCBF, 0xCC0, 0xCC5, 0xCC6, 0xCC7, 0xCC9, 0xCCA,
  0xCCC, 0xCCE, 0xCD5, 0xCD7, 0xCDC, 0xCDF, 0xCE0, 0xCE2, 0xCE4, 0xCE6, 0xCF0, 0xCF1, 0xCF3, 0xCF4,
  0xD00, 0xD02, 0xD04, 0xD0D, 0xD0E, 0xD11, 0xD12, 0xD3B, 0xD3D, 0xD3E, 0xD41, 0xD45, 0xD46, 0xD49,
  0xD4A, 0xD4D, 0xD4E, 0xD4F, 0xD50, 0xD54, 0xD57, 0xD58, 0xD5F, 0xD62, 0xD64, 0xD66, 0xD70, 0xD79,
  0xD7A, 0xD80, 0xD81, 0xD82, 0xD84, 0xD85, 0xD97, 0xD9A, 0xDB2, 0xDB3, 0xDBC, 0xDBD, 0xDBE, 0xDC0,
  0xDC7, 0xDCA, 0xDCB, 0xDCF, 0xDD2, 0xDD5, 0xDD6, 0xDD7, 0xDD8, 0xDE0, 0xDE6, 0xDF0, 0xDF2, 0xDF4,
  0xDF5, 0xE01, 0xE31, 0xE32, 0xE34, 0xE3B, 0xE3F, 0xE40, 0xE46, 0xE47, 0xE4F, 0xE50, 0xE5A, 0xE5C,
  0xE81, 0xE83, 0xE84, 0xE85, 0xE86, 0xE8B, 0xE8C, 0xEA4, 0xEA5, 0xEA6, 0xEA7, 0xEB1, 0xEB2, 0xEB4,
  0xEBD, 0xEBE, 0xEC0, 0xEC5, 0xEC6, 0xEC7, 0xEC8, 0xECF, 0xED0, 0xEDA, 0xEDC, 0xEE0, 0xF00, 0xF01,
  0xF04, 0xF13, 0xF14, 0xF15, 0xF18, 0xF1A, 0xF20, 0xF2A, 0xF34, 0xF35, 0xF36, 0xF37, 0xF38, 0xF39,
  0xF3A, 0xF3B, 0xF3C, 0xF3D, 0xF3E, 0xF40, 0xF48, 0xF49, 0xF6D, 0xF71, 0xF7F, 0xF80, 0xF85, 0xF86,
  0xF88, 0xF8D, 0xF98, 0xF99, 0xFBD, 0xFBE, 0xFC6, 0xFC7, 0xFCD, 0xFCE, 0xFD0, 0xFD5, 0xFD9, 0xFDB]

/-- Where the runs from U+1000 to U+1FFF begin. -/
def secondStarts : List Nat := [
  0x1000, 0x102B, 0x102D, 0x1031, 0x1032, 0x1038, 0x1039, 0x103B, 0x103D, 0x103F, 0x1040, 0x104A,
  0x1050, 0x1056, 0x1058, 0x105A, 0x105E, 0x1061, 0x1062, 0x1065, 0x1067, 0x106E, 0x1071, 0x1075,
  0x1082, 0x1083, 0x1085, 0x1087, 0x108D, 0x108E, 0x108F, 0x1090, 0x109A, 0x109D, 0x109E, 0x10A0,
  0x10C6, 0x10C7, 0x10C8, 0x10CD, 0x10CE, 0x10D0, 0x10FB, 0x10FC, 0x10FD, 0x1100, 0x1249, 0x124A,
  0x124E, 0x1250, 0x1257, 0x1258, 0x1259, 0x125A, 0x125E, 0x1260, 0x1289, 0x128A, 0x128E, 0x1290,
  0x12B1, 0x12B2, 0x12B6, 0x12B8, 0x12BF, 0x12C0, 0x12C1, 0x12C2, 0x12C6, 0x12C8, 0x12D7, 0x12D8,
  0x1311, 0x1312, 0x1316, 0x1318, 0x135B, 0x135D, 0x1360, 0x1369, 0x137D, 0x1380, 0x1390, 0x139A,
  0x13A0, 0x13F6, 0x13F8, 0x13FE, 0x1400, 0x1401, 0x166D, 0x166E, 0x166F, 0x1680, 0x1681, 0x169B,
  0x169C, 0x169D, 0x16A0, 0x16EB, 0x16EE, 0x16F1, 0x16F9, 0x1700, 0x1712, 0x1715, 0x1716, 0x171F,
  0x1732, 0x1734, 0x1735, 0x1737, 0x1740, 0x1752, 0x1754, 0x1760, 0x176D, 0x176E, 0x1771, 0x1772,
  0x1774, 0x1780, 0x17B4, 0x17B6, 0x17B7, 0x17BE, 0x17C6, 0x17C7, 0x17C9, 0x17D4, 0x17D7, 0x17D8,
  0x17DB, 0x17DC, 0x17DD, 0x17DE, 0x17E0, 0x17EA, 0x17F0, 0x17FA, 0x1800, 0x1806, 0x1807, 0x180B,
  0x180E, 0x180F, 0x1810, 0x181A, 0x1820, 0x1843, 0x1844, 0x1879, 0x1880, 0x1885, 0x1887, 0x18A9,
  0x18AA, 0x18AB, 0x18B0, 0x18F6, 0x1900, 0x191F, 0x1920, 0x1923, 0x1927, 0x1929, 0x192C, 0x1930,
  0x1932, 0x1933, 0x1939, 0x193C, 0x1940, 0x1941, 0x1944, 0x1946, 0x1950, 0x196E, 0x1970, 0x1975,
  0x1980, 0x19AC, 0x19B0, 0x19CA, 0x19D0, 0x19DA, 0x19DB, 0x19DE, 0x1A00, 0x1A17, 0x1A19, 0x1A1B,
  0x1A1C, 0x1A1E, 0x1A20, 0x1A55, 0x1A56, 0x1A57, 0x1A58, 0x1A5F, 0x1A60, 0x1A61, 0x1A62, 0x1A63,
  0x1A65, 0x1A6D, 0x1A73, 0x1A7D, 0x1A7F, 0x1A80, 0x1A8A, 0x1A90, 0x1A9A, 0x1AA0, 0x1AA7, 0x1AA8,
  0x1AAE, 0x1AB0, 0x1ABE, 0x1ABF, 0x1ADE, 0x1AE0, 0x1AEC, 0x1B00, 0x1B04, 0x1B05, 0x1B34, 0x1B35,
  0x1B36, 0x1B3B, 0x1B3C, 0x1B3D, 0x1B42, 0x1B43, 0x1B45, 0x1B4D, 0x1B4E, 0x1B50, 0x1B5A, 0x1B61,
  0x1B6B, 0x1B74, 0x1B7D, 0x1B80, 0x1B82, 0x1B83, 0x1BA1, 0x1BA2, 0x1BA6, 0x1BA8, 0x1BAA, 0x1BAB,
  0x1BAE, 0x1BB0, 0x1BBA, 0x1BE6, 0x1BE7, 0x1BE8, 0x1BEA, 0x1BED, 0x1BEE, 0x1BEF, 0x1BF2, 0x1BF4,
  0x1BFC, 0x1C00, 0x1C24, 0x1C2C, 0x1C34, 0x1C36, 0x1C38, 0x1C3B, 0x1C40, 0x1C4A, 0x1C4D, 0x1C50,
  0x1C5A, 0x1C78, 0x1C7E, 0x1C80, 0x1C89, 0x1C8A, 0x1C8B, 0x1C90, 0x1CBB, 0x1CBD, 0x1CC0, 0x1CC8,
  0x1CD0, 0x1CD3, 0x1CD4, 0x1CE1, 0x1CE2, 0x1CE9, 0x1CED, 0x1CEE, 0x1CF4, 0x1CF5, 0x1CF7, 0x1CF8,
  0x1CFA, 0x1CFB, 0x1D00, 0x1D2C, 0x1D6B, 0x1D78, 0x1D79, 0x1D9B, 0x1DC0, 0x1E00, 0x1E01, 0x1E02,
  0x1E03, 0x1E04, 0x1E05, 0x1E06, 0x1E07, 0x1E08, 0x1E09, 0x1E0A, 0x1E0B, 0x1E0C, 0x1E0D, 0x1E0E,
  0x1E0F, 0x1E10, 0x1E11, 0x1E12, 0x1E13, 0x1E14, 0x1E15, 0x1E16, 0x1E17, 0x1E18, 0x1E19, 0x1E1A,
  0x1E1B, 0x1E1C, 0x1E1D, 0x1E1E, 0x1E1F, 0x1E20, 0x1E21, 0x1E22, 0x1E23, 0x1E24, 0x1E25, 0x1E26,
  0x1E27, 0x1E28, 0x1E29, 0x1E2A, 0x1E2B, 0x1E2C, 0x1E2D, 0x1E2E, 0x1E2F, 0x1E30, 0x1E31, 0x1E32,
  0x1E33, 0x1E34, 0x1E35, 0x1E36, 0x1E37, 0x1E38, 0x1E39, 0x1E3A, 0x1E3B, 0x1E3C, 0x1E3D, 0x1E3E,
  0x1E3F, 0x1E40, 0x1E41, 0x1E42, 0x1E43, 0x1E44, 0x1E45, 0x1E46, 0x1E47, 0x1E48, 0x1E49, 0x1E4A,
  0x1E4B, 0x1E4C, 0x1E4D, 0x1E4E, 0x1E4F, 0x1E50, 0x1E51, 0x1E52, 0x1E53, 0x1E54, 0x1E55, 0x1E56,
  0x1E57, 0x1E58, 0x1E59, 0x1E5A, 0x1E5B, 0x1E5C, 0x1E5D, 0x1E5E, 0x1E5F, 0x1E60, 0x1E61, 0x1E62,
  0x1E63, 0x1E64, 0x1E65, 0x1E66, 0x1E67, 0x1E68, 0x1E69, 0x1E6A, 0x1E6B, 0x1E6C, 0x1E6D, 0x1E6E,
  0x1E6F, 0x1E70, 0x1E71, 0x1E72, 0x1E73, 0x1E74, 0x1E75, 0x1E76, 0x1E77, 0x1E78, 0x1E79, 0x1E7A,
  0x1E7B, 0x1E7C, 0x1E7D, 0x1E7E, 0x1E7F, 0x1E80, 0x1E81, 0x1E82, 0x1E83, 0x1E84, 0x1E85, 0x1E86,
  0x1E87, 0x1E88, 0x1E89, 0x1E8A, 0x1E8B, 0x1E8C, 0x1E8D, 0x1E8E, 0x1E8F, 0x1E90, 0x1E91, 0x1E92,
  0x1E93, 0x1E94, 0x1E95, 0x1E9E, 0x1E9F, 0x1EA0, 0x1EA1, 0x1EA2, 0x1EA3, 0x1EA4, 0x1EA5, 0x1EA6,
  0x1EA7, 0x1EA8, 0x1EA9, 0x1EAA, 0x1EAB, 0x1EAC, 0x1EAD, 0x1EAE, 0x1EAF, 0x1EB0, 0x1EB1, 0x1EB2,
  0x1EB3, 0x1EB4, 0x1EB5, 0x1EB6, 0x1EB7, 0x1EB8, 0x1EB9, 0x1EBA, 0x1EBB, 0x1EBC, 0x1EBD, 0x1EBE,
  0x1EBF, 0x1EC0, 0x1EC1, 0x1EC2, 0x1EC3, 0x1EC4, 0x1EC5, 0x1EC6, 0x1EC7, 0x1EC8, 0x1EC9, 0x1ECA,
  0x1ECB, 0x1ECC, 0x1ECD, 0x1ECE, 0x1ECF, 0x1ED0, 0x1ED1, 0x1ED2, 0x1ED3, 0x1ED4, 0x1ED5, 0x1ED6,
  0x1ED7, 0x1ED8, 0x1ED9, 0x1EDA, 0x1EDB, 0x1EDC, 0x1EDD, 0x1EDE, 0x1EDF, 0x1EE0, 0x1EE1, 0x1EE2,
  0x1EE3, 0x1EE4, 0x1EE5, 0x1EE6, 0x1EE7, 0x1EE8, 0x1EE9, 0x1EEA, 0x1EEB, 0x1EEC, 0x1EED, 0x1EEE,
  0x1EEF, 0x1EF0, 0x1EF1, 0x1EF2, 0x1EF3, 0x1EF4, 0x1EF5, 0x1EF6, 0x1EF7, 0x1EF8, 0x1EF9, 0x1EFA,
  0x1EFB, 0x1EFC, 0x1EFD, 0x1EFE, 0x1EFF, 0x1F08, 0x1F10, 0x1F16, 0x1F18, 0x1F1E, 0x1F20, 0x1F28,
  0x1F30, 0x1F38, 0x1F40, 0x1F46, 0x1F48, 0x1F4E, 0x1F50, 0x1F58, 0x1F59, 0x1F5A, 0x1F5B, 0x1F5C,
  0x1F5D, 0x1F5E, 0x1F5F, 0x1F60, 0x1F68, 0x1F70, 0x1F7E, 0x1F80, 0x1F88, 0x1F90, 0x1F98, 0x1FA0,
  0x1FA8, 0x1FB0, 0x1FB5, 0x1FB6, 0x1FB8, 0x1FBC, 0x1FBD, 0x1FBE, 0x1FBF, 0x1FC2, 0x1FC5, 0x1FC6,
  0x1FC8, 0x1FCC, 0x1FCD, 0x1FD0, 0x1FD4, 0x1FD6, 0x1FD8, 0x1FDC, 0x1FDD, 0x1FE0, 0x1FE8, 0x1FED,
  0x1FF0, 0x1FF2, 0x1FF5, 0x1FF6, 0x1FF8, 0x1FFC, 0x1FFD, 0x1FFF]

/-- Where the runs from U+2000 to U+FFFF begin. -/
def thirdStarts : List Nat := [
  0x2000, 0x200B, 0x2010, 0x2016, 0x2018, 0x2019, 0x201A, 0x201B, 0x201D, 0x201E, 0x201F, 0x2020,
  0x2028, 0x2029, 0x202A, 0x202F, 0x2030, 0x2039, 0x203A, 0x203B, 0x203F, 0x2041, 0x2044, 0x2045,
  0x2046, 0x2047, 0x2052, 0x2053, 0x2054, 0x2055, 0x205F, 0x2060, 0x2065, 0x2066, 0x2070, 0x2071,
  0x2072, 0x2074, 0x207A, 0x207D, 0x207E, 0x207F, 0x2080, 0x208A, 0x208D, 0x208E, 0x208F, 0x2090,
  0x209D, 0x20A0, 0x20C2, 0x20D0, 0x20DD, 0x20E1, 0x20E2, 0x20E5, 0x20F1, 0x2100, 0x2102, 0x2103,
  0x2107, 0x2108, 0x210A, 0x210B, 0x210E, 0x2110, 0x2113, 0x2114, 0x2115, 0x2116, 0x2118, 0x2119,
  0x211E, 0x2124, 0x2125, 0x2126, 0x2127, 0x2128, 0x2129, 0x212A, 0x212E, 0x212F, 0x2130, 0x2134,
  0x2135, 0x2139, 0x213A, 0x213C, 0x213E, 0x2140, 0x2145, 0x2146, 0x214A, 0x214B, 0x214C, 0x214E,
  0x214F, 0x2150, 0x2160, 0x2183, 0x2184, 0x2185, 0x2189, 0x218A, 0x218C, 0x2190, 0x2195, 0x219A,
  0x219C, 0x21A0, 0x21A1, 0x21A3, 0x21A4, 0x21A6, 0x21A7, 0x21AE, 0x21AF, 0x21CE, 0x21D0, 0x21D2,
  0x21D3, 0x21D4, 0x21D5, 0x21F4, 0x2300, 0x2308, 0x2309, 0x230A, 0x230B, 0x230C, 0x2320, 0x2322,
  0x2329, 0x232A, 0x232B, 0x237C, 0x237D, 0x239B, 0x23B4, 0x23DC, 0x23E2, 0x242A, 0x2440, 0x244B,
  0x2460, 0x249C, 0x24EA, 0x2500, 0x25B7, 0x25B8, 0x25C1, 0x25C2, 0x25F8, 0x2600, 0x266F, 0x2670,
  0x2768, 0x2769, 0x276A, 0x276B, 0x276C, 0x276D, 0x276E, 0x276F, 0x2770, 0x2771, 0x2772, 0x2773,
  0x2774, 0x2775, 0x2776, 0x2794, 0x27C0, 0x27C5, 0x27C6, 0x27C7, 0x27E6, 0x27E7, 0x27E8, 0x27E9,
  0x27EA, 0x27EB, 0x27EC, 0x27ED, 0x27EE, 0x27EF, 0x27F0, 0x2800, 0x2900, 0x2983, 0x2984, 0x2985,
  0x2986, 0x2987, 0x2988, 0x2989, 0x298A, 0x298B, 0x298C, 0x298D, 0x298E, 0x298F, 0x2990, 0x2991,
  0x2992, 0x2993, 0x2994, 0x2995, 0x2996, 0x2997, 0x2998, 0x2999, 0x29D8, 0x29D9, 0x29DA, 0x29DB,
  0x29DC, 0x29FC, 0x29FD, 0x29FE, 0x2B00, 0x2B30, 0x2B45, 0x2B47, 0x2B4D, 0x2B74, 0x2B76, 0x2C00,
  0x2C30, 0x2C60, 0x2C61, 0x2C62, 0x2C65, 0x2C67, 0x2C68, 0x2C69, 0x2C6A, 0x2C6B, 0x2C6C, 0x2C6D,
  0x2C71, 0x2C72, 0x2C73, 0x2C75, 0x2C76, 0x2C7C, 0x2C7E, 0x2C81, 0x2C82, 0x2C83, 0x2C84, 0x2C85,
  0x2C86, 0x2C87, 0x2C88, 0x2C89, 0x2C8A, 0x2C8B, 0x2C8C, 0x2C8D, 0x2C8E, 0x2C8F, 0x2C90, 0x2C91,
  0x2C92, 0x2C93, 0x2C94, 0x2C95, 0x2C96, 0x2C97, 0x2C98, 0x2C99, 0x2C9A, 0x2C9B, 0x2C9C, 0x2C9D,
  0x2C9E, 0x2C9F, 0x2CA0, 0x2CA1, 0x2CA2, 0x2CA3, 0x2CA4, 0x2CA5, 0x2CA6, 0x2CA7, 0x2CA8, 0x2CA9,
  0x2CAA, 0x2CAB, 0x2CAC, 0x2CAD, 0x2CAE, 0x2CAF, 0x2CB0, 0x2CB1, 0x2CB2, 0x2CB3, 0x2CB4, 0x2CB5,
  0x2CB6, 0x2CB7, 0x2CB8, 0x2CB9, 0x2CBA, 0x2CBB, 0x2CBC, 0x2CBD, 0x2CBE, 0x2CBF, 0x2CC0, 0x2CC1,
  0x2CC2, 0x2CC3, 0x2CC4, 0x2CC5, 0x2CC6, 0x2CC7, 0x2CC8, 0x2CC9, 0x2CCA, 0x2CCB, 0x2CCC, 0x2CCD,
  0x2CCE, 0x2CCF, 0x2CD0, 0x2CD1, 0x2CD2, 0x2CD3, 0x2CD4, 0x2CD5, 0x2CD6, 0x2CD7, 0x2CD8, 0x2CD9,
  0x2CDA, 0x2CDB, 0x2CDC, 0x2CDD, 0x2CDE, 0x2CDF, 0x2CE0, 0x2CE1, 0x2CE2, 0x2CE3, 0x2CE5, 0x2CEB,
  0x2CEC, 0x2CED, 0x2CEE, 0x2CEF, 0x2CF2, 0x2CF3, 0x2CF4, 0x2CF9, 0x2CFD, 0x2CFE, 0x2D00, 0x2D26,
  0x2D27, 0x2D28, 0x2D2D, 0x2D2E, 0x2D30, 0x2D68, 0x2D6F, 0x2D70, 0x2D71, 0x2D7F, 0x2D80, 0x2D97,
  0x2DA0, 0x2DA7, 0x2DA8, 0x2DAF, 0x2DB0, 0x2DB7, 0x2DB8, 0x2DBF, 0x2DC0, 0x2DC7, 0x2DC8, 0x2DCF,
  0x2DD0, 0x2DD7, 0x2DD8, 0x2DDF, 0x2DE0, 0x2E00, 0x2E02, 0x2E03, 0x2E04, 0x2E05, 0x2E06, 0x2E09,
  0x2E0A, 0x2E0B, 0x2E0C, 0x2E0D, 0x2E0E, 0x2E17, 0x2E18, 0x2E1A, 0x2E1B, 0x2E1C, 0x2E1D, 0x2E1E,
  0x2E20, 0x2E21, 0x2E22, 0x2E23, 0x2E24, 0x2E25, 0x2E26, 0x2E27, 0x2E28, 0x2E29, 0x2E2A, 0x2E2F,
  0x2E30, 0x2E3A, 0x2E3C, 0x2E40, 0x2E41, 0x2E42, 0x2E43, 0x2E50, 0x2E52, 0x2E55, 0x2E56, 0x2E57,
  0x2E58, 0x2E59, 0x2E5A, 0x2E5B, 0x2E5C, 0x2E5D, 0x2E5E, 0x2E80, 0x2E9A, 0x2E9B, 0x2EF4, 0x2F00,
  0x2FD6, 0x2FF0, 0x3000, 0x3001, 0x3004, 0x3005, 0x3006, 0x3007, 0x3008, 0x3009, 0x300A, 0x300B,
  0x300C, 0x300D, 0x300E, 0x300F, 0x3010, 0x3011, 0x3012, 0x3014, 0x3015, 0x3016, 0x3017, 0x3018,
  0x3019, 0x301A, 0x301B, 0x301C, 0x301D, 0x301E, 0x3020, 0x3021, 0x302A, 0x302E, 0x3030, 0x3031,
  0x3036, 0x3038, 0x303B, 0x303C, 0x303D, 0x303E, 0x3040, 0x3041, 0x3097, 0x3099, 0x309B, 0x309D,
  0x309F, 0x30A0, 0x30A1, 0x30FB, 0x30FC, 0x30FF, 0x3100, 0x3105, 0x3130, 0x3131, 0x318F, 0x3190,
  0x3192, 0x3196, 0x31A0, 0x31C0, 0x31E6, 0x31EF, 0x31F0, 0x3200, 0x321F, 0x3220, 0x322A, 0x3248,
  0x3250, 0x3251, 0x3260, 0x3280, 0x328A, 0x32B1, 0x32C0, 0x3400, 0x4DC0, 0x4E00, 0xA015, 0xA016,
  0xA48D, 0xA490, 0xA4C7, 0xA4D0, 0xA4F8, 0xA4FE, 0xA500, 0xA60C, 0xA60D, 0xA610, 0xA620, 0xA62A,
  0xA62C, 0xA640, 0xA641, 0xA642, 0xA643, 0xA644, 0xA645, 0xA646, 0xA647, 0xA648, 0xA649, 0xA64A,
  0xA64B, 0xA64C, 0xA64D, 0xA64E, 0xA64F, 0xA650, 0xA651, 0xA652, 0xA653, 0xA654, 0xA655, 0xA656,
  0xA657, 0xA658, 0xA659, 0xA65A, 0xA65B, 0xA65C, 0xA65D, 0xA65E, 0xA65F, 0xA660, 0xA661, 0xA662,
  0xA663, 0xA664, 0xA665, 0xA666, 0xA667, 0xA668, 0xA669, 0xA66A, 0xA66B, 0xA66C, 0xA66D, 0xA66E,
  0xA66F, 0xA670, 0xA673, 0xA674, 0xA67E, 0xA67F, 0xA680, 0xA681, 0xA682, 0xA683, 0xA684, 0xA685,
  0xA686, 0xA687, 0xA688, 0xA689, 0xA68A, 0xA68B, 0xA68C, 0xA68D, 0xA68E, 0xA68F, 0xA690, 0xA691,
  0xA692, 0xA693, 0xA694, 0xA695, 0xA696, 0xA697, 0xA698, 0xA699, 0xA69A, 0xA69B, 0xA69C, 0xA69E,
  0xA6A0, 0xA6E6, 0xA6F0, 0xA6F2, 0xA6F8, 0xA700, 0xA717, 0xA720, 0xA722, 0xA723, 0xA724, 0xA725,
  0xA726, 0xA727, 0xA728, 0xA729, 0xA72A, 0xA72B, 0xA72C, 0xA72D, 0xA72E, 0xA72F, 0xA732, 0xA733,
  0xA734, 0xA735, 0xA736, 0xA737, 0xA738, 0xA739, 0xA73A, 0xA73B, 0xA73C, 0xA73D, 0xA73E, 0xA73F,
  0xA740, 0xA741, 0xA742, 0xA743, 0xA744, 0xA745, 0xA746, 0xA747, 0xA748, 0xA749, 0xA74A, 0xA74B,
  0xA74C, 0xA74D, 0xA74E, 0xA74F, 0xA750, 0xA751, 0xA752, 0xA753, 0xA754, 0xA755, 0xA756, 0xA757,
  0xA758, 0xA759, 0xA75A, 0xA75B, 0xA75C, 0xA75D, 0xA75E, 0xA75F, 0xA760, 0xA761, 0xA762, 0xA763,
  0xA764, 0xA765, 0xA766, 0xA767, 0xA768, 0xA769, 0xA76A, 0xA76B, 0xA76C, 0xA76D, 0xA76E, 0xA76F,
  0xA770, 0xA771, 0xA779, 0xA77A, 0xA77B, 0xA77C, 0xA77D, 0xA77F, 0xA780, 0xA781, 0xA782, 0xA783,
  0xA784, 0xA785, 0xA786, 0xA787, 0xA788, 0xA789, 0xA78B, 0xA78C, 0xA78D, 0xA78E, 0xA78F, 0xA790,
  0xA791, 0xA792, 0xA793, 0xA796, 0xA797, 0xA798, 0xA799, 0xA79A, 0xA79B, 0xA79C, 0xA79D, 0xA79E,
  0xA79F, 0xA7A0, 0xA7A1, 0xA7A2, 0xA7A3, 0xA7A4, 0xA7A5, 0xA7A6, 0xA7A7, 0xA7A8, 0xA7A9, 0xA7AA,
  0xA7AF, 0xA7B0, 0xA7B5, 0xA7B6, 0xA7B7, 0xA7B8, 0xA7B9, 0xA7BA, 0xA7BB, 0xA7BC, 0xA7BD, 0xA7BE,
  0xA7BF, 0xA7C0, 0xA7C1, 0xA7C2, 0xA7C3, 0xA7C4, 0xA7C8, 0xA7C9, 0xA7CA, 0xA7CB, 0xA7CD, 0xA7CE,
  0xA7CF, 0xA7D0, 0xA7D1, 0xA7D2, 0xA7D3, 0xA7D4, 0xA7D5, 0xA7D6, 0xA7D7, 0xA7D8, 0xA7D9, 0xA7DA,
  0xA7DB, 0xA7DC, 0xA7DD, 0xA7F1, 0xA7F5, 0xA7F6, 0xA7F7, 0xA7F8, 0xA7FA, 0xA7FB, 0xA802, 0xA803,
  0xA806, 0xA807, 0xA80B, 0xA80C, 0xA823, 0xA825, 0xA827, 0xA828, 0xA82C, 0xA82D, 0xA830, 0xA836,
  0xA838, 0xA839, 0xA83A, 0xA840, 0xA874, 0xA878, 0xA880, 0xA882, 0xA8B4, 0xA8C4, 0xA8C6, 0xA8CE,
  0xA8D0, 0xA8DA, 0xA8E0, 0xA8F2, 0xA8F8, 0xA8FB, 0xA8FC, 0xA8FD, 0xA8FF, 0xA900, 0xA90A, 0xA926,
  0xA92E, 0xA930, 0xA947, 0xA952, 0xA954, 0xA95F, 0xA960, 0xA97D, 0xA980, 0xA983, 0xA984, 0xA9B3,
  0xA9B4, 0xA9B6, 0xA9BA, 0xA9BC, 0xA9BE, 0xA9C1, 0xA9CE, 0xA9CF, 0xA9D0, 0xA9DA, 0xA9DE, 0xA9E0,
  0xA9E5, 0xA9E6, 0xA9E7, 0xA9F0, 0xA9FA, 0xA9FF, 0xAA00, 0xAA29, 0xAA2F, 0xAA31, 0xAA33, 0xAA35,
  0xAA37, 0xAA40, 0xAA43, 0xAA44, 0xAA4C, 0xAA4D, 0xAA4E, 0xAA50, 0xAA5A, 0xAA5C, 0xAA60, 0xAA70,
  0xAA71, 0xAA77, 0xAA7A, 0xAA7B, 0xAA7C, 0xAA7D, 0xAA7E, 0xAAB0, 0xAAB1, 0xAAB2, 0xAAB5, 0xAAB7,
  0xAAB9, 0xAABE, 0xAAC0, 0xAAC1, 0xAAC2, 0xAAC3, 0xAADB, 0xAADD, 0xAADE, 0xAAE0, 0xAAEB, 0xAAEC,
  0xAAEE, 0xAAF0, 0xAAF2, 0xAAF3, 0xAAF5, 0xAAF6, 0xAAF7, 0xAB01, 0xAB07, 0xAB09, 0xAB0F, 0xAB11,
  0xAB17, 0xAB20, 0xAB27, 0xAB28, 0xAB2F, 0xAB30, 0xAB5B, 0xAB5C, 0xAB60, 0xAB69, 0xAB6A, 0xAB6C,
  0xAB70, 0xABC0, 0xABE3, 0xABE5, 0xABE6, 0xABE8, 0xABE9, 0xABEB, 0xABEC, 0xABED, 0xABEE, 0xABF0,
  0xABFA, 0xAC00, 0xD7A4, 0xD7B0, 0xD7C7, 0xD7CB, 0xD7FC, 0xD800, 0xE000, 0xF900, 0xFA6E, 0xFA70,
  0xFADA, 0xFB00, 0xFB07, 0xFB13, 0xFB18, 0xFB1D, 0xFB1E, 0xFB1F, 0xFB29, 0xFB2A, 0xFB37, 0xFB38,
  0xFB3D, 0xFB3E, 0xFB3F, 0xFB40, 0xFB42, 0xFB43, 0xFB45, 0xFB46, 0xFBB2, 0xFBC3, 0xFBD3, 0xFD3E,
  0xFD3F, 0xFD40, 0xFD50, 0xFD90, 0xFD92, 0xFDC8, 0xFDD0, 0xFDF0, 0xFDFC, 0xFDFD, 0xFE00, 0xFE10,
  0xFE17, 0xFE18, 0xFE19, 0xFE1A, 0xFE20, 0xFE30, 0xFE31, 0xFE33, 0xFE35, 0xFE36, 0xFE37, 0xFE38,
  0xFE39, 0xFE3A, 0xFE3B, 0xFE3C, 0xFE3D, 0xFE3E, 0xFE3F, 0xFE40, 0xFE41, 0xFE42, 0xFE43, 0xFE44,
  0xFE45, 0xFE47, 0xFE48, 0xFE49, 0xFE4D, 0xFE50, 0xFE53, 0xFE54, 0xFE58, 0xFE59, 0xFE5A, 0xFE5B,
  0xFE5C, 0xFE5D, 0xFE5E, 0xFE5F, 0xFE62, 0xFE63, 0xFE64, 0xFE67, 0xFE68, 0xFE69, 0xFE6A, 0xFE6C,
  0xFE70, 0xFE75, 0xFE76, 0xFEFD, 0xFEFF, 0xFF00, 0xFF01, 0xFF04, 0xFF05, 0xFF08, 0xFF09, 0xFF0A,
  0xFF0B, 0xFF0C, 0xFF0D, 0xFF0E, 0xFF10, 0xFF1A, 0xFF1C, 0xFF1F, 0xFF21, 0xFF3B, 0xFF3C, 0xFF3D,
  0xFF3E, 0xFF3F, 0xFF40, 0xFF41, 0xFF5B, 0xFF5C, 0xFF5D, 0xFF5E, 0xFF5F, 0xFF60, 0xFF61, 0xFF62,
  0xFF63, 0xFF64, 0xFF66, 0xFF70, 0xFF71, 0xFF9E, 0xFFA0, 0xFFBF, 0xFFC2, 0xFFC8, 0xFFCA, 0xFFD0,
  0xFFD2, 0xFFD8, 0xFFDA, 0xFFDD, 0xFFE0, 0xFFE2, 0xFFE3, 0xFFE4, 0xFFE5, 0xFFE7, 0xFFE8, 0xFFE9,
  0xFFED, 0xFFEF, 0xFFF9, 0xFFFC, 0xFFFE]

/-- Where the runs from U+10000 on begin. -/
def fourthStarts : List Nat := [
  0x10000, 0x1000C, 0x1000D, 0x10027, 0x10028, 0x1003B, 0x1003C, 0x1003E, 0x1003F, 0x1004E, 0x10050,
  0x1005E, 0x10080, 0x100FB, 0x10100, 0x10103, 0x10107, 0x10134, 0x10137, 0x10140, 0x10175, 0x10179,
  0x1018A, 0x1018C, 0x1018F, 0x10190, 0x1019D, 0x101A0, 0x101A1, 0x101D0, 0x101FD, 0x101FE, 0x10280,
  0x1029D, 0x102A0, 0x102D1, 0x102E0, 0x102E1, 0x102FC, 0x10300, 0x10320, 0x10324, 0x1032D, 0x10341,
  0x10342, 0x1034A, 0x1034B, 0x10350, 0x10376, 0x1037B, 0x10380, 0x1039E, 0x1039F, 0x103A0, 0x103C4,
  0x103C8, 0x103D0, 0x103D1, 0x103D6, 0x10400, 0x10428, 0x10450, 0x1049E, 0x104A0, 0x104AA, 0x104B0,
  0x104D4, 0x104D8, 0x104FC, 0x10500, 0x10528, 0x10530, 0x10564, 0x1056F, 0x10570, 0x1057B, 0x1057C,
  0x1058B, 0x1058C, 0x10593, 0x10594, 0x10596, 0x10597, 0x105A2, 0x105A3, 0x105B2, 0x105B3, 0x105BA,
  0x105BB, 0x105BD, 0x105C0, 0x105F4, 0x10600, 0x10737, 0x10740, 0x10756, 0x10760, 0x10768, 0x10780,
  0x10786, 0x10787, 0x107B1, 0x107B2, 0x107BB, 0x10800, 0x10806, 0x10808, 0x10809, 0x1080A, 0x10836,
  0x10837, 0x10839, 0x1083C, 0x1083D, 0x1083F, 0x10856, 0x10857, 0x10858, 0x10860, 0x10877, 0x10879,
  0x10880, 0x1089F, 0x108A7, 0x108B0, 0x108E0, 0x108F3, 0x108F4, 0x108F6, 0x108FB, 0x10900, 0x10916,
  0x1091C, 0x1091F, 0x10920, 0x1093A, 0x1093F, 0x10940, 0x1095A, 0x10980, 0x109B8, 0x109BC, 0x109BE,
  0x109C0, 0x109D0, 0x109D2, 0x10A00, 0x10A01, 0x10A04, 0x10A05, 0x10A07, 0x10A0C, 0x10A10, 0x10A14,
  0x10A15, 0x10A18, 0x10A19, 0x10A36, 0x10A38, 0x10A3B, 0x10A3F, 0x10A40, 0x10A49, 0x10A50, 0x10A59,
  0x10A60, 0x10A7D, 0x10A7F, 0x10A80, 0x10A9D, 0x10AA0, 0x10AC0, 0x10AC8, 0x10AC9, 0x10AE5, 0x10AE7,
  0x10AEB, 0x10AF0, 0x10AF7, 0x10B00, 0x10B36, 0x10B39, 0x10B40, 0x10B56, 0x10B58, 0x10B60, 0x10B73,
  0x10B78, 0x10B80, 0x10B92, 0x10B99, 0x10B9D, 0x10BA9, 0x10BB0, 0x10C00, 0x10C49, 0x10C80, 0x10CB3,
  0x10CC0, 0x10CF3, 0x10CFA, 0x10D00, 0x10D24, 0x10D28, 0x10D30, 0x10D3A, 0x10D40, 0x10D4A, 0x10D4E,
  0x10D4F, 0x10D50, 0x10D66, 0x10D69, 0x10D6E, 0x10D6F, 0x10D70, 0x10D86, 0x10D8E, 0x10D90, 0x10E60,
  0x10E7F, 0x10E80, 0x10EAA, 0x10EAB, 0x10EAD, 0x10EAE, 0x10EB0, 0x10EB2, 0x10EC2, 0x10EC5, 0x10EC6,
  0x10EC8, 0x10ED0, 0x10ED1, 0x10ED9, 0x10EFA, 0x10F00, 0x10F1D, 0x10F27, 0x10F28, 0x10F30, 0x10F46,
  0x10F51, 0x10F55, 0x10F5A, 0x10F70, 0x10F82, 0x10F86, 0x10F8A, 0x10FB0, 0x10FC5, 0x10FCC, 0x10FE0,
  0x10FF7, 0x11000, 0x11001, 0x11002, 0x11003, 0x11038, 0x11047, 0x1104E, 0x11052, 0x11066, 0x11070,
  0x11071, 0x11073, 0x11075, 0x11076, 0x1107F, 0x11082, 0x11083, 0x110B0, 0x110B3, 0x110B7, 0x110B9,
  0x110BB, 0x110BD, 0x110BE, 0x110C2, 0x110C3, 0x110CD, 0x110CE, 0x110D0, 0x110E9, 0x110F0, 0x110FA,
  0x11100, 0x11103, 0x11127, 0x1112C, 0x1112D, 0x11135, 0x11136, 0x11140, 0x11144, 0x11145, 0x11147,
  0x11148, 0x11150, 0x11173, 0x11174, 0x11176, 0x11177, 0x11180, 0x11182, 0x11183, 0x111B3, 0x111B6,
  0x111BF, 0x111C1, 0x111C5, 0x111C9, 0x111CD, 0x111CE, 0x111CF, 0x111D0, 0x111DA, 0x111DB, 0x111DC,
  0x111DD, 0x111E0, 0x111E1, 0x111F5, 0x11200, 0x11212, 0x11213, 0x1122C, 0x1122F, 0x11232, 0x11234,
  0x11235, 0x11236, 0x11238, 0x1123E, 0x1123F, 0x11241, 0x11242, 0x11280, 0x11287, 0x11288, 0x11289,
  0x1128A, 0x1128E, 0x1128F, 0x1129E, 0x1129F, 0x112A9, 0x112AA, 0x112B0, 0x112DF, 0x112E0, 0x112E3,
  0x112EB, 0x112F0, 0x112FA, 0x11300, 0x11302, 0x11304, 0x11305, 0x1130D, 0x1130F, 0x11311, 0x11313,
  0x11329, 0x1132A, 0x11331, 0x11332, 0x11334, 0x11335, 0x1133A, 0x1133B, 0x1133D, 0x1133E, 0x11340,
  0x11341, 0x11345, 0x11347, 0x11349, 0x1134B, 0x1134E, 0x11350, 0x11351, 0x11357, 0x11358, 0x1135D,
  0x11362, 0x11364, 0x11366, 0x1136D, 0x11370, 0x11375, 0x11380, 0x1138A, 0x1138B, 0x1138C, 0x1138E,
  0x1138F, 0x11390, 0x113B6, 0x113B7, 0x113B8, 0x113BB, 0x113C1, 0x113C2, 0x113C3, 0x113C5, 0x113C6,
  0x113C7, 0x113CB, 0x113CC, 0x113CE, 0x113CF, 0x113D0, 0x113D1, 0x113D2, 0x113D3, 0x113D4, 0x113D6,
  0x113D7, 0x113D9, 0x113E1, 0x113E3, 0x11400, 0x11435, 0x11438, 0x11440, 0x11442, 0x11445, 0x11446,
  0x11447, 0x1144B, 0x11450, 0x1145A, 0x1145C, 0x1145D, 0x1145E, 0x1145F, 0x11462, 0x11480, 0x114B0,
  0x114B3, 0x114B9, 0x114BA, 0x114BB, 0x114BF, 0x114C1, 0x114C2, 0x114C4, 0x114C6, 0x114C7, 0x114C8,
  0x114D0, 0x114DA, 0x11580, 0x115AF, 0x115B2, 0x115B6, 0x115B8, 0x115BC, 0x115BE, 0x115BF, 0x115C1,
  0x115D8, 0x115DC, 0x115DE, 0x11600, 0x11630, 0x11633, 0x1163B, 0x1163D, 0x1163E, 0x1163F, 0x11641,
  0x11644, 0x11645, 0x11650, 0x1165A, 0x11660, 0x1166D, 0x11680, 0x116AB, 0x116AC, 0x116AD, 0x116AE,
  0x116B0, 0x116B6, 0x116B7, 0x116B8, 0x116B9, 0x116BA, 0x116C0, 0x116CA, 0x116D0, 0x116E4, 0x11700,
  0x1171B, 0x1171D, 0x1171E, 0x1171F, 0x11720, 0x11722, 0x11726, 0x11727, 0x1172C, 0x11730, 0x1173A,
  0x1173C, 0x1173F, 0x11740, 0x11747, 0x11800, 0x1182C, 0x1182F, 0x11838, 0x11839, 0x1183B, 0x1183C,
  0x118A0, 0x118C0, 0x118E0, 0x118EA, 0x118F3, 0x118FF, 0x11907, 0x11909, 0x1190A, 0x1190C, 0x11914,
  0x11915, 0x11917, 0x11918, 0x11930, 0x11936, 0x11937, 0x11939, 0x1193B, 0x1193D, 0x1193E, 0x1193F,
  0x11940, 0x11941, 0x11942, 0x11943, 0x11944, 0x11947, 0x11950, 0x1195A, 0x119A0, 0x119A8, 0x119AA,
  0x119D1, 0x119D4, 0x119D8, 0x119DA, 0x119DC, 0x119E0, 0x119E1, 0x119E2, 0x119E3, 0x119E4, 0x119E5,
  0x11A00, 0x11A01, 0x11A0B, 0x11A33, 0x11A39, 0x11A3A, 0x11A3B, 0x11A3F, 0x11A47, 0x11A48, 0x11A50,
  0x11A51, 0x11A57, 0x11A59, 0x11A5C, 0x11A8A, 0x11A97, 0x11A98, 0x11A9A, 0x11A9D, 0x11A9E, 0x11AA3,
  0x11AB0, 0x11AF9, 0x11B00, 0x11B0A, 0x11B60, 0x11B61, 0x11B62, 0x11B65, 0x11B66, 0x11B67, 0x11B68,
  0x11BC0, 0x11BE1, 0x11BE2, 0x11BF0, 0x11BFA, 0x11C00, 0x11C09, 0x11C0A, 0x11C2F, 0x11C30, 0x11C37,
  0x11C38, 0x11C3E, 0x11C3F, 0x11C40, 0x11C41, 0x11C46, 0x11C50, 0x11C5A, 0x11C6D, 0x11C70, 0x11C72,
  0x11C90, 0x11C92, 0x11CA8, 0x11CA9, 0x11CAA, 0x11CB1, 0x11CB2, 0x11CB4, 0x11CB5, 0x11CB7, 0x11D00,
  0x11D07, 0x11D08, 0x11D0A, 0x11D0B, 0x11D31, 0x11D37, 0x11D3A, 0x11D3B, 0x11D3C, 0x11D3E, 0x11D3F,
  0x11D46, 0x11D47, 0x11D48, 0x11D50, 0x11D5A, 0x11D60, 0x11D66, 0x11D67, 0x11D69, 0x11D6A, 0x11D8A,
  0x11D8F, 0x11D90, 0x11D92, 0x11D93, 0x11D95, 0x11D96, 0x11D97, 0x11D98, 0x11D99, 0x11DA0, 0x11DAA,
  0x11DB0, 0x11DD9, 0x11DDA, 0x11DDC, 0x11DE0, 0x11DEA, 0x11EE0, 0x11EF3, 0x11EF5, 0x11EF7, 0x11EF9,
  0x11F00, 0x11F02, 0x11F03, 0x11F04, 0x11F11, 0x11F12, 0x11F34, 0x11F36, 0x11F3B, 0x11F3E, 0x11F40,
  0x11F41, 0x11F42, 0x11F43, 0x11F50, 0x11F5A, 0x11F5B, 0x11FB0, 0x11FB1, 0x11FC0, 0x11FD5, 0x11FDD,
  0x11FE1, 0x11FF2, 0x11FFF, 0x12000, 0x1239A, 0x12400, 0x1246F, 0x12470, 0x12475, 0x12480, 0x12544,
  0x12F90, 0x12FF1, 0x12FF3, 0x13000, 0x13430, 0x13440, 0x13441, 0x13447, 0x13456, 0x13460, 0x143FB,
  0x14400, 0x14647, 0x16100, 0x1611E, 0x1612A, 0x1612D, 0x16130, 0x1613A, 0x16800, 0x16A39, 0x16A40,
  0x16A5F, 0x16A60, 0x16A6A, 0x16A6E, 0x16A70, 0x16ABF, 0x16AC0, 0x16ACA, 0x16AD0, 0x16AEE, 0x16AF0,
  0x16AF5, 0x16AF6, 0x16B00, 0x16B30, 0x16B37, 0x16B3C, 0x16B40, 0x16B44, 0x16B45, 0x16B46, 0x16B50,
  0x16B5A, 0x16B5B, 0x16B62, 0x16B63, 0x16B78, 0x16B7D, 0x16B90, 0x16D40, 0x16D43, 0x16D6B, 0x16D6D,
  0x16D70, 0x16D7A, 0x16E40, 0x16E60, 0x16E80, 0x16E97, 0x16E9B, 0x16EA0, 0x16EB9, 0x16EBB, 0x16ED4,
  0x16F00, 0x16F4B, 0x16F4F, 0x16F50, 0x16F51, 0x16F88, 0x16F8F, 0x16F93, 0x16FA0, 0x16FE0, 0x16FE2,
  0x16FE3, 0x16FE4, 0x16FE5, 0x16FF0, 0x16FF2, 0x16FF4, 0x16FF7, 0x17000, 0x18CD6, 0x18CFF, 0x18D1F,
  0x18D80, 0x18DF3, 0x1AFF0, 0x1AFF4, 0x1AFF5, 0x1AFFC, 0x1AFFD, 0x1AFFF, 0x1B000, 0x1B123, 0x1B132,
  0x1B133, 0x1B150, 0x1B153, 0x1B155, 0x1B156, 0x1B164, 0x1B168, 0x1B170, 0x1B2FC, 0x1BC00, 0x1BC6B,
  0x1BC70, 0x1BC7D, 0x1BC80, 0x1BC89, 0x1BC90, 0x1BC9A, 0x1BC9C, 0x1BC9D, 0x1BC9F, 0x1BCA0, 0x1BCA4,
  0x1CC00, 0x1CCF0, 0x1CCFA, 0x1CCFD, 0x1CD00, 0x1CEB4, 0x1CEBA, 0x1CED1, 0x1CEE0, 0x1CEF0, 0x1CEF1,
  0x1CF00, 0x1CF2E, 0x1CF30, 0x1CF47, 0x1CF50, 0x1CFC4, 0x1D000, 0x1D0F6, 0x1D100, 0x1D127, 0x1D129,
  0x1D165, 0x1D167, 0x1D16A, 0x1D16D, 0x1D173, 0x1D17B, 0x1D183, 0x1D185, 0x1D18C, 0x1D1AA, 0x1D1AE,
  0x1D1EB, 0x1D200, 0x1D242, 0x1D245, 0x1D246, 0x1D2C0, 0x1D2D4, 0x1D2E0, 0x1D2F4, 0x1D300, 0x1D357,
  0x1D360, 0x1D379, 0x1D400, 0x1D41A, 0x1D434, 0x1D44E, 0x1D455, 0x1D456, 0x1D468, 0x1D482, 0x1D49C,
  0x1D49D, 0x1D49E, 0x1D4A0, 0x1D4A2, 0x1D4A3, 0x1D4A5, 0x1D4A7, 0x1D4A9, 0x1D4AD, 0x1D4AE, 0x1D4B6,
  0x1D4BA, 0x1D4BB, 0x1D4BC, 0x1D4BD, 0x1D4C4, 0x1D4C5, 0x1D4D0, 0x1D4EA, 0x1D504, 0x1D506, 0x1D507,
  0x1D50B, 0x1D50D, 0x1D515, 0x1D516, 0x1D51D, 0x1D51E, 0x1D538, 0x1D53A, 0x1D53B, 0x1D53F, 0x1D540,
  0x1D545, 0x1D546, 0x1D547, 0x1D54A, 0x1D551, 0x1D552, 0x1D56C, 0x1D586, 0x1D5A0, 0x1D5BA, 0x1D5D4,
  0x1D5EE, 0x1D608, 0x1D622, 0x1D63C, 0x1D656, 0x1D670, 0x1D68A, 0x1D6A6, 0x1D6A8, 0x1D6C1, 0x1D6C2,
  0x1D6DB, 0x1D6DC, 0x1D6E2, 0x1D6FB, 0x1D6FC, 0x1D715, 0x1D716, 0x1D71C, 0x1D735, 0x1D736, 0x1D74F,
  0x1D750, 0x1D756, 0x1D76F, 0x1D770, 0x1D789, 0x1D78A, 0x1D790, 0x1D7A9, 0x1D7AA, 0x1D7C3, 0x1D7C4,
  0x1D7CA, 0x1D7CB, 0x1D7CC, 0x1D7CE, 0x1D800, 0x1DA00, 0x1DA37, 0x1DA3B, 0x1DA6D, 0x1DA75, 0x1DA76,
  0x1DA84, 0x1DA85, 0x1DA87, 0x1DA8C, 0x1DA9B, 0x1DAA0, 0x1DAA1, 0x1DAB0, 0x1DF00, 0x1DF0A, 0x1DF0B,
  0x1DF1F, 0x1DF25, 0x1DF2B, 0x1E000, 0x1E007, 0x1E008, 0x1E019, 0x1E01B, 0x1E022, 0x1E023, 0x1E025,
  0x1E026, 0x1E02B, 0x1E030, 0x1E06E, 0x1E08F, 0x1E090, 0x1E100, 0x1E12D, 0x1E130, 0x1E137, 0x1E13E,
  0x1E140, 0x1E14A, 0x1E14E, 0x1E14F, 0x1E150, 0x1E290, 0x1E2AE, 0x1E2AF, 0x1E2C0, 0x1E2EC, 0x1E2F0,
  0x1E2FA, 0x1E2FF, 0x1E300, 0x1E4D0, 0x1E4EB, 0x1E4EC, 0x1E4F0, 0x1E4FA, 0x1E5D0, 0x1E5EE, 0x1E5F0,
  0x1E5F1, 0x1E5FB, 0x1E5FF, 0x1E600, 0x1E6C0, 0x1E6DF, 0x1E6E0, 0x1E6E3, 0x1E6E4, 0x1E6E6, 0x1E6E7,
  0x1E6EE, 0x1E6F0, 0x1E6F5, 0x1E6F6, 0x1E6FE, 0x1E6FF, 0x1E700, 0x1E7E0, 0x1E7E7, 0x1E7E8, 0x1E7EC,
  0x1E7ED, 0x1E7EF, 0x1E7F0, 0x1E7FF, 0x1E800, 0x1E8C5, 0x1E8C7, 0x1E8D0, 0x1E8D7, 0x1E900, 0x1E922,
  0x1E944, 0x1E94B, 0x1E94C, 0x1E950, 0x1E95A, 0x1E95E, 0x1E960, 0x1EC71, 0x1ECAC, 0x1ECAD, 0x1ECB0,
  0x1ECB1, 0x1ECB5, 0x1ED01, 0x1ED2E, 0x1ED2F, 0x1ED3E, 0x1EE00, 0x1EE04, 0x1EE05, 0x1EE20, 0x1EE21,
  0x1EE23, 0x1EE24, 0x1EE25, 0x1EE27, 0x1EE28, 0x1EE29, 0x1EE33, 0x1EE34, 0x1EE38, 0x1EE39, 0x1EE3A,
  0x1EE3B, 0x1EE3C, 0x1EE42, 0x1EE43, 0x1EE47, 0x1EE48, 0x1EE49, 0x1EE4A, 0x1EE4B, 0x1EE4C, 0x1EE4D,
  0x1EE50, 0x1EE51, 0x1EE53, 0x1EE54, 0x1EE55, 0x1EE57, 0x1EE58, 0x1EE59, 0x1EE5A, 0x1EE5B, 0x1EE5C,
  0x1EE5D, 0x1EE5E, 0x1EE5F, 0x1EE60, 0x1EE61, 0x1EE63, 0x1EE64, 0x1EE65, 0x1EE67, 0x1EE6B, 0x1EE6C,
  0x1EE73, 0x1EE74, 0x1EE78, 0x1EE79, 0x1EE7D, 0x1EE7E, 0x1EE7F, 0x1EE80, 0x1EE8A, 0x1EE8B, 0x1EE9C,
  0x1EEA1, 0x1EEA4, 0x1EEA5, 0x1EEAA, 0x1EEAB, 0x1EEBC, 0x1EEF0, 0x1EEF2, 0x1F000, 0x1F02C, 0x1F030,
  0x1F094, 0x1F0A0, 0x1F0AF, 0x1F0B1, 0x1F0C0, 0x1F0C1, 0x1F0D0, 0x1F0D1, 0x1F0F6, 0x1F100, 0x1F10D,
  0x1F1AE, 0x1F1E6, 0x1F203, 0x1F210, 0x1F23C, 0x1F240, 0x1F249, 0x1F250, 0x1F252, 0x1F260, 0x1F266,
  0x1F300, 0x1F3FB, 0x1F400, 0x1F6D9, 0x1F6DC, 0x1F6ED, 0x1F6F0, 0x1F6FD, 0x1F700, 0x1F7DA, 0x1F7E0,
  0x1F7EC, 0x1F7F0, 0x1F7F1, 0x1F800, 0x1F80C, 0x1F810, 0x1F848, 0x1F850, 0x1F85A, 0x1F860, 0x1F888,
  0x1F890, 0x1F8AE, 0x1F8B0, 0x1F8BC, 0x1F8C0, 0x1F8C2, 0x1F8D0, 0x1F8D9, 0x1F900, 0x1FA58, 0x1FA60,
  0x1FA6E, 0x1FA70, 0x1FA7D, 0x1FA80, 0x1FA8B, 0x1FA8E, 0x1FAC7, 0x1FAC8, 0x1FAC9, 0x1FACD, 0x1FADD,
  0x1FADF, 0x1FAEB, 0x1FAEF, 0x1FAF9, 0x1FB00, 0x1FB93, 0x1FB94, 0x1FBF0, 0x1FBFA, 0x1FBFB, 0x20000,
  0x2A6E0, 0x2A700, 0x2B81E, 0x2B820, 0x2CEAE, 0x2CEB0, 0x2EBE1, 0x2EBF0, 0x2EE5E, 0x2F800, 0x2FA1E,
  0x30000, 0x3134B, 0x31350, 0x3347A, 0xE0001, 0xE0002, 0xE0020, 0xE0080, 0xE0100, 0xE01F0, 0xF0000,
  0xFFFFE, 0x100000, 0x10FFFE]

/-- Where all runs begin. -/
def runStarts : List Nat := firstStarts ++ secondStarts ++ thirdStarts ++ fourthStarts

/-- The codes of the runs' categories, one after the other. -/
def runCodes : String := String.join [
  "CcZsPoScPoPsPePoSmPoPdPoNdPoSmPoLuPsPoPeSkPcSkLlPsSmPeSmCcZsPoScSoPoSkSoLoPiSmCfSoSkSoSmNoSkLl",
  "PoSkNoLoPfNoPoLuSmLuLlSmLlLuLlLuLlLuLlLuLlLuLlLuLlLuLlLuLlLuLlLuLlLuLlLuLlLuLlLuLlLuLlLuLlLuLl",
  "LuLlLuLlLuLlLuLlLuLlLuLlLuLlLuLlLuLlLuLlLuLlLuLlLuLlLuLlLuLlLuLlLuLlLuLlLuLlLuLlLuLlLuLlLuLlLu",
  "LlLuLlLuLlLuLlLuLlLuLlLuLlLuLlLuLlLuLlLuLlLuLlLuLlLuLlLuLlLuLlLuLlLuLlLuLlLuLlLuLlLuLlLuLlLuLl",
  "LuLlLuLlLuLlLuLlLuLlLuLlLuLlLuLlLuLlLuLlLuLlLuLlLuLlLuLlLuLlLuLlLoLuLlLoLuLtLlLuLtLlLuLtLlLuLl",
  "LuLlLuLlLuLlLuLlLuLlLuLlLuLlLuLlLuLlLuLlLuLlLuLlLuLlLuLlLuLlLuLlLuLtLlLuLlLuLlLuLlLuLlLuLlLuLl",
  "LuLlLuLlLuLlLuLlLuLlLuLlLuLlLuLlLuLlLuLlLuLlLuLlLuLlLuLlLuLlLuLlLuLlLuLlLuLlLuLlLuLlLuLlLuLlLu",
  "LlLuLlLuLlLuLlLuLlLuLlLuLlLuLlLuLlLuLlLoLlLmSkLmSkLmSkLmSkLmSkMnLuLlLuLlLmSkLuLlCnLmLlPoLuCnSk",
  "LuPoLuCnLuCnLuLlLuCnLuLlLuLlLuLlLuLlLuLlLuLlLuLlLuLlLuLlLuLlLuLlLuLlLuLlLuLlLuLlLuLlSmLuLlLuLl",
  "LuLlLuLlLuLlLuLlLuLlLuLlLuLlLuLlLuLlLuLlLuLlLuLlLuLlLuLlLuLlLuLlLuLlLuLlSoMnMeLuLlLuLlLuLlLuLl",
  "LuLlLuLlLuLlLuLlLuLlLuLlLuLlLuLlLuLlLuLlLuLlLuLlLuLlLuLlLuLlLuLlLuLlLuLlLuLlLuLlLuLlLuLlLuLlLu",
  "LlLuLlLuLlLuLlLuLlLuLlLuLlLuLlLuLlLuLlLuLlLuLlLuLlLuLlLuLlLuLlLuLlLuLlLuLlLuLlLuLlLuLlLuLlLuLl",
  "LuLlLuLlLuLlLuLlLuLlLuLlLuLlLuLlLuLlLuLlLuLlLuLlLuLlLuLlLuLlLuLlLuLlLuLlLuLlLuLlLuLlLuLlLuLlLu",
  "LlLuLlLuLlLuLlLuLlLuLlLuLlLuLlCnLuCnLmPoLlPoPdCnSoScCnMnPdMnPoMnPoMnPoMnCnLoCnLoPoCnCfSmPoScPo",
  "SoMnPoCfPoLoLmLoMnNdPoLoMnLoPoLoMnCfSoMnLmMnSoMnLoNdLoSoLoPoCnCfLoMnLoMnCnLoMnLoCnNdLoMnLmSoPo",
  "LmCnMnScLoMnLmMnLmMnLmMnCnPoCnLoMnCnPoCnLoCnLoSkLoCfCnMnLoLmMnCfMnMcLoMnMcMnLoMcMnMcMnMcLoMnLo",
  "MnPoNdPoLmLoMnMcCnLoCnLoCnLoCnLoCnLoCnLoCnMnLoMcMnCnMcCnMcMnLoCnMcCnLoCnLoMnCnNdLoScNoSoScLoPo",
  "MnCnMnMcCnLoCnLoCnLoCnLoCnLoCnLoCnLoCnMnCnMcMnCnMnCnMnCnMnCnLoCnLoCnNdMnLoMnPoCnMnMcCnLoCnLoCn",
  "LoCnLoCnLoCnLoCnMnLoMcMnCnMnMcCnMcMnCnLoCnLoMnCnNdPoScCnLoMnCnMnMcCnLoCnLoCnLoCnLoCnLoCnLoCnMn",
  "LoMcMnMcMnCnMcCnMcMnCnMnMcCnLoCnLoMnCnNdSoLoNoCnMnLoCnLoCnLoCnLoCnLoCnLoCnLoCnLoCnLoCnLoCnMcMn",
  "McCnMcCnMcMnCnLoCnMcCnNdNoSoScSoCnMnMcMnLoCnLoCnLoCnLoCnMnLoMnMcCnMnCnMnCnMnCnLoCnLoCnLoMnCnNd",
  "CnPoNoSoLoMnMcPoLoCnLoCnLoCnLoCnLoCnMnLoMcMnMcCnMnMcCnMcMnCnMcCnLoCnLoMnCnNdCnLoMcCnMnMcLoCnLo",
  "CnLoMnLoMcMnCnMcCnMcMnLoSoCnLoMcNoLoMnCnNdNoSoLoCnMnMcCnLoCnLoCnLoCnLoCnLoCnMnCnMcMnCnMnCnMcCn",
  "NdCnMcPoCnLoMnLoMnCnScLoLmMnPoNdPoCnLoCnLoCnLoCnLoCnLoCnLoMnLoMnLoCnLoCnLmCnMnCnNdCnLoCnLoSoPo",
  "SoPoSoMnSoNdNoSoMnSoMnSoMnPsPePsPeMcLoCnLoCnMnMcMnPoMnLoMnCnMnCnSoMnSoCnSoPoSoPoCnLoMcMnMcMnMc",
  "MnMcMnLoNdPoLoMcMnLoMnLoMcLoMcLoMnLoMnMcMnMcMnLoMcNdMcMnSoLuCnLuCnLuCnLlPoLmLlLoCnLoCnLoCnLoCn",
  "LoCnLoCnLoCnLoCnLoCnLoCnLoCnLoCnLoCnLoCnLoCnLoCnMnPoNoCnLoSoCnLuCnLlCnPdLoSoPoLoZsLoPsPeCnLoPo",
  "NlLoCnLoMnMcCnLoMnMcPoCnLoMnCnLoCnLoCnMnCnLoMnMcMnMcMnMcMnPoLmPoScLoMnCnNdCnNoCnPoPdPoMnCfMnNd",
  "CnLoLmLoCnLoMnLoMnLoCnLoCnLoCnMnMcMnMcCnMcMnMcMnCnSoCnPoNdLoCnLoCnLoCnLoCnNdNoCnSoLoMnMcMnCnPo",
  "LoMcMnMcMnCnMnMcMnMcMnMcMnCnMnNdCnNdCnPoLmPoCnMnMeMnCnMnCnMnMcLoMnMcMnMcMnMcMnMcLoCnPoNdPoSoMn",
  "SoPoMnMcLoMcMnMcMnMcMnLoNdLoMnMcMnMcMnMcMnMcCnPoLoMcMnMcMnCnPoNdCnLoNdLoLmPoLlLuLlCnLuCnLuPoCn",
  "MnPoMnMcMnLoMnLoMnLoMcMnLoCnLlLmLlLmLlLmMnLuLlLuLlLuLlLuLlLuLlLuLlLuLlLuLlLuLlLuLlLuLlLuLlLuLl",
  "LuLlLuLlLuLlLuLlLuLlLuLlLuLlLuLlLuLlLuLlLuLlLuLlLuLlLuLlLuLlLuLlLuLlLuLlLuLlLuLlLuLlLuLlLuLlLu",
  "LlLuLlLuLlLuLlLuLlLuLlLuLlLuLlLuLlLuLlLuLlLuLlLuLlLuLlLuLlLuLlLuLlLuLlLuLlLuLlLuLlLuLlLuLlLuLl",
  "LuLlLuLlLuLlLuLlLuLlLuLlLuLlLuLlLuLlLuLlLuLlLuLlLuLlLuLlLuLlLuLlLuLlLuLlLuLlLuLlLuLlLuLlLuLlLu",
  "LlLuLlLuLlLuLlLuLlLuLlLuLlLuLlLuLlLuLlLuLlLuLlLuLlLuLlLuLlLuLlLuLlLuLlLuLlLuLlLuLlLuLlLuLlLuLl",
  "LuLlLuLlLuLlLuLlLuLlLuLlLuLlLuLlLuLlLuLlLuLlLuLlLuLlLuLlLuLlLuLlLuLlLuLlCnLuCnLlLuLlLuLlCnLuCn",
  "LlCnLuCnLuCnLuCnLuLlLuLlCnLlLtLlLtLlLtLlCnLlLuLtSkLlSkLlCnLlLuLtSkLlCnLlLuCnSkLlLuSkCnLlCnLlLu",
  "LtSkCnZsCfPdPoPiPfPsPiPfPsPiPoZlZpCfZsPoPiPfPoPcPoSmPsPePoSmPoPcPoZsCfCnCfNoLmCnNoSmPsPeLmNoSm",
  "PsPeCnLmCnScCnMnMeMnMeMnCnSoLuSoLuSoLlLuLlLuLlSoLuSoSmLuSoLuSoLuSoLuSoLuSoLlLuLlLoLlSoLlLuSmLu",
  "LlSoSmSoLlSoNoNlLuLlNlNoSoCnSmSoSmSoSmSoSmSoSmSoSmSoSmSoSmSoSmSoSmSoPsPePsPeSoSmSoPsPeSoSmSoSm",
  "SoSmSoCnSoCnNoSoNoSoSmSoSmSoSmSoSmSoPsPePsPePsPePsPePsPePsPePsPeNoSoSmPsPeSmPsPePsPePsPePsPePs",
  "PeSmSoSmPsPePsPePsPePsPePsPePsPePsPePsPePsPePsPePsPeSmPsPePsPeSmPsPeSmSoSmSoSmSoCnSoLuLlLuLlLu",
  "LlLuLlLuLlLuLlLuLlLuLlLuLlLmLuLlLuLlLuLlLuLlLuLlLuLlLuLlLuLlLuLlLuLlLuLlLuLlLuLlLuLlLuLlLuLlLu",
  "LlLuLlLuLlLuLlLuLlLuLlLuLlLuLlLuLlLuLlLuLlLuLlLuLlLuLlLuLlLuLlLuLlLuLlLuLlLuLlLuLlLuLlLuLlLuLl",
  "LuLlLuLlLuLlLuLlLuLlLuLlLuLlLuLlLuLlLuLlSoLuLlLuLlMnLuLlCnPoNoPoLlCnLlCnLlCnLoCnLmPoCnMnLoCnLo",
  "CnLoCnLoCnLoCnLoCnLoCnLoCnLoCnMnPoPiPfPiPfPoPiPfPoPiPfPoPdPoPdPoPiPfPoPiPfPsPePsPePsPePsPePoLm",
  "PoPdPoPdPoPsPoSoPoPsPePsPePsPePsPePdCnSoCnSoCnSoCnSoZsPoSoLmLoNlPsPePsPePsPePsPePsPeSoPsPePsPe",
  "PsPePsPePdPsPeSoNlMnMcPdLmSoNlLmLoPoSoCnLoCnMnSkLmLoPdLoPoLmLoCnLoCnLoCnSoNoSoLoSoCnSoLoSoCnNo",
  "SoNoSoNoSoNoSoNoSoLoSoLoLmLoCnSoCnLoLmPoLoLmPoLoNdLoCnLuLlLuLlLuLlLuLlLuLlLuLlLuLlLuLlLuLlLuLl",
  "LuLlLuLlLuLlLuLlLuLlLuLlLuLlLuLlLuLlLuLlLuLlLuLlLuLlLoMnMePoMnPoLmLuLlLuLlLuLlLuLlLuLlLuLlLuLl",
  "LuLlLuLlLuLlLuLlLuLlLuLlLuLlLmMnLoNlMnPoCnSkLmSkLuLlLuLlLuLlLuLlLuLlLuLlLuLlLuLlLuLlLuLlLuLlLu",
  "LlLuLlLuLlLuLlLuLlLuLlLuLlLuLlLuLlLuLlLuLlLuLlLuLlLuLlLuLlLuLlLuLlLuLlLuLlLuLlLuLlLuLlLuLlLuLl",
  "LuLlLuLlLuLlLmLlLuLlLuLlLuLlLuLlLuLlLuLlLuLlLmSkLuLlLuLlLoLuLlLuLlLuLlLuLlLuLlLuLlLuLlLuLlLuLl",
  "LuLlLuLlLuLlLuLlLuLlLuLlLuLlLuLlLuLlLuLlLuLlLuLlLuLlLuLlLuLlLuLlLuLlLuLlLuLlLuLlLuLlLuLlLuCnLm",
  "LuLlLoLmLlLoMnLoMnLoMnLoMcMnMcSoMnCnNoSoScSoCnLoPoCnMcLoMcMnCnPoNdCnMnLoPoLoPoLoMnNdLoMnPoLoMn",
  "McCnPoLoCnMnMcLoMnMcMnMcMnMcPoCnLmNdCnPoLoMnLmLoNdLoCnLoMnMcMnMcMnCnLoMnLoMnMcCnNdCnPoLoLmLoSo",
  "LoMcMnMcLoMnLoMnLoMnLoMnLoMnLoCnLoLmPoLoMcMnMcPoLoLmMcMnCnLoCnLoCnLoCnLoCnLoCnLlSkLmLlLmSkCnLl",
  "LoMcMnMcMnMcPoMcMnCnNdCnLoCnLoCnLoCnCsCoLoCnLoCnLlCnLlCnLoMnLoSmLoCnLoCnLoCnLoCnLoCnLoSkSoLoPe",
  "PsSoLoSoLoSoCnLoScSoMnPoPsPePoCnMnPoPdPcPsPePsPePsPePsPePsPePsPePsPePsPePoPsPePoPcPoCnPoPdPsPe",
  "PsPePsPePoSmPdSmCnPoScPoCnLoCnLoCnCfCnPoScPoPsPePoSmPoPdPoNdPoSmPoLuPsPoPeSkPcSkLlPsSmPeSmPsPe",
  "PoPsPePoLoLmLoLmLoCnLoCnLoCnLoCnLoCnScSmSkSoScCnSoSmSoCnCfSoCnLoCnLoCnLoCnLoCnLoCnLoCnLoCnPoCn",
  "NoCnSoNlNoSoNoSoCnSoCnSoCnSoMnCnLoCnLoCnMnNoCnLoNoCnLoNlLoNlCnLoMnCnLoCnPoLoCnLoPoNlCnLuLlLoCn",
  "NdCnLuCnLlCnLoCnLoCnPoLuCnLuCnLuCnLuCnLlCnLlCnLlCnLlCnLoCnLoCnLoCnLoCnLmCnLmCnLmCnLoCnLoCnLoCn",
  "LoCnLoCnLoCnPoNoLoSoNoLoCnNoCnLoCnLoCnNoLoNoCnPoLoCnPoLoCnLoCnNoLoNoCnNoLoMnCnMnCnMnLoCnLoCnLo",
  "CnMnCnMnNoCnPoCnLoNoPoLoNoCnLoSoLoMnCnNoPoCnLoCnPoLoCnNoLoCnNoLoCnPoCnNoCnLoCnLuCnLlCnNoLoMnCn",
  "NdCnNdLoLmLoLuCnMnPdLmLlCnSmCnNoCnLoCnMnPdCnLoCnLoLmLoCnPoSoCnMnLoNoLoCnLoMnNoPoCnLoMnPoCnLoNo",
  "CnLoCnMcMnMcLoMnPoCnNoNdMnLoMnLoCnMnMcLoMcMnMcMnPoCfPoMnCnCfCnLoCnNdCnMnLoMnMcMnCnNdPoLoMcLoCn",
  "LoMnPoLoCnMnMcLoMcMnMcLoPoMnPoMcMnNdLoPoLoPoCnNoCnLoCnLoMcMnMcMnMcMnPoMnLoMnCnLoCnLoCnLoCnLoCn",
  "LoPoCnLoMnMcMnCnNdCnMnMcCnLoCnLoCnLoCnLoCnLoCnLoCnMnLoMcMnMcCnMcCnMcCnLoCnMcCnLoMcCnMnCnMnCnLo",
  "CnLoCnLoCnLoCnLoMcMnCnMcCnMcCnMcCnMcMnMcMnLoMnLoPoCnPoCnMnCnLoMcMnMcMnMcMnLoPoNdPoCnPoMnLoCnLo",
  "McMnMcMnMcMnMcMnLoPoLoCnNdCnLoMcMnCnMcMnMcMnPoLoMnCnLoMcMnMcMnMcMnPoLoCnNdCnPoCnLoMnMcMnMcMnMc",
  "MnLoPoCnNdCnNdCnLoCnMnMcMnMcMnMcMnCnNdNoPoSoLoCnLoMcMnMcMnPoCnLuLlNdNoCnLoCnLoCnLoCnLoCnLoMcCn",
  "McCnMnMcMnLoMcLoMcMnPoCnNdCnLoCnLoMcMnCnMnMcMnLoPoLoMcCnLoMnLoMnMcLoMnPoMnCnLoMnMcMnLoMnMcMnPo",
  "LoPoCnLoCnPoCnMnMcMnMcMnMcCnLoPoCnNdCnLoCnLoMcMnCnMnMcMnLoPoCnNdNoCnPoLoCnMnCnMcMnMcMnMcMnCnLo",
  "CnLoCnLoMnCnMnCnMnCnMnLoMnCnNdCnLoCnLoCnLoMcCnMnCnMcMnMcMnLoCnNdCnLoLmLoCnNdCnLoMnMcPoCnMnLoMc",
  "LoCnLoMcMnCnMcMnMcMnPoNdMnCnLoCnNoSoScSoCnPoLoCnNlCnPoCnLoCnLoPoCnLoCfMnLoMnCnLoCnLoCnLoMnMcMn",
  "NdCnLoCnLoCnNdCnPoLoCnNdCnLoCnMnPoCnLoMnPoSoLmPoSoCnNdCnNoCnLoCnLoCnLmLoLmPoNdCnLuLlNoPoCnLuCn",
  "LlCnLoCnMnLoMcCnMnLmCnLmPoLmMnCnMcLmNlCnLoCnLoCnLoCnLmCnLmCnLmCnLoCnLoCnLoCnLoCnLoCnLoCnLoCnLo",
  "CnLoCnLoCnSoMnPoCfCnSoNdSoCnSoCnSoCnSoSmCnMnCnMnCnSoCnSoCnSoCnSoMcMnSoMcCfMnSoMnSoMnSoCnSoMnSo",
  "CnNoCnNoCnSoCnNoCnLuLlLuLlCnLlLuLlLuCnLuCnLuCnLuCnLuCnLuLlCnLlCnLlCnLlLuLlLuCnLuCnLuCnLuCnLlLu",
  "CnLuCnLuCnLuCnLuCnLlLuLlLuLlLuLlLuLlLuLlLuLlCnLuSmLlSmLlLuSmLlSmLlLuSmLlSmLlLuSmLlSmLlLuSmLlSm",
  "LlLuLlCnNdSoMnSoMnSoMnSoMnSoPoCnMnCnMnCnLlLoLlCnLlCnMnCnMnCnMnCnMnCnMnCnLmCnMnCnLoCnMnLmCnNdCn",
  "LoSoCnLoMnCnLoMnNdCnScCnLoLmMnNdCnLoMnLoNdCnPoCnLoCnLoMnLoMnLoMnLoMnCnLoLmCnLoCnLoCnLoCnLoCnLo",
  "CnNoMnCnLuLlMnLmCnNdCnPoCnNoSoNoScNoCnNoSoNoCnLoCnLoCnLoCnLoCnLoCnLoCnLoCnLoCnLoCnLoCnLoCnLoCn",
  "LoCnLoCnLoCnLoCnLoCnLoCnLoCnLoCnLoCnLoCnLoCnLoCnLoCnLoCnLoCnLoCnLoCnLoCnLoCnLoCnLoCnSmCnSoCnSo",
  "CnSoCnSoCnSoCnSoCnNoSoCnSoCnSoCnSoCnSoCnSoCnSoSkSoCnSoCnSoCnSoCnSoCnSoCnSoCnSoCnSoCnSoCnSoCnSo",
  "CnSoCnSmCnSoCnSoCnSoCnSoCnSoCnSoCnSoCnSoCnSoCnSoCnSoNdSoCnLoCnLoCnLoCnLoCnLoCnLoCnLoCnLoCnCfCn",
  "CfCnMnCnCoCnCoCn"]

/-- The categories that codes stand for. -/
def ofCodes : List Char → List Category
  | a :: b :: more => ofCode (String.ofList [a, b]) :: ofCodes more
  | _ => []

/-- The runs: where each begins, and its category. -/
def runs : List (Nat × Category) := runStarts.zip (ofCodes runCodes.toList)

/-- The category of the last run that begins at a code point or before it; `found` is
that of the run before those given. -/
def lookUp (found : Category) : List (Nat × Category) → Nat → Category
  | [], _ => found
  | (start, category) :: more, n => if n < start then found else lookUp category more n

/-- The category of a character. -/
def ofChar (c : Char) : Category := lookUp .control runs c.toNat

end Category

end ChatGateway.Text

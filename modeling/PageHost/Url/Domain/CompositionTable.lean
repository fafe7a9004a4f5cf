/-!
# Table of compositions

The composed characters that a prepared domain name can hold, and the classes by
which combining characters are ordered. Korean syllables are composed by rule and
not listed.
-/

namespace PageHost.Url.Domain

/-- The distance from the composite before, and the two parts of each composite. -/
def compositesRows : List (List Nat) := [
  [0xe0, 0x61, 0x300, 0x1, 0x61, 0x301, 0x1, 0x61, 0x302, 0x1, 0x61, 0x303, 0x1, 0x61, 0x308, 0x1],
  [0x61, 0x30a, 0x2, 0x63, 0x327, 0x1, 0x65, 0x300, 0x1, 0x65, 0x301, 0x1, 0x65, 0x302, 0x1, 0x65],
  [0x308, 0x1, 0x69, 0x300, 0x1, 0x69, 0x301, 0x1, 0x69, 0x302, 0x1, 0x69, 0x308, 0x2, 0x6e, 0x303],
  [0x1, 0x6f, 0x300, 0x1, 0x6f, 0x301, 0x1, 0x6f, 0x302, 0x1, 0x6f, 0x303, 0x1, 0x6f, 0x308, 0x3],
  [0x75, 0x300, 0x1, 0x75, 0x301, 0x1, 0x75, 0x302, 0x1, 0x75, 0x308, 0x1, 0x79, 0x301, 0x2, 0x79],
  [0x308, 0x2, 0x61, 0x304, 0x2, 0x61, 0x306, 0x2, 0x61, 0x328, 0x2, 0x63, 0x301, 0x2, 0x63, 0x302],
  [0x2, 0x63, 0x307, 0x2, 0x63, 0x30c, 0x2, 0x64, 0x30c, 0x4, 0x65, 0x304, 0x2, 0x65, 0x306, 0x2],
  [0x65, 0x307, 0x2, 0x65, 0x328, 0x2, 0x65, 0x30c, 0x2, 0x67, 0x302, 0x2, 0x67, 0x306, 0x2, 0x67],
  [0x307, 0x2, 0x67, 0x327, 0x2, 0x68, 0x302, 0x4, 0x69, 0x303, 0x2, 0x69, 0x304, 0x2, 0x69, 0x306],
  [0x2, 0x69, 0x328, 0x6, 0x6a, 0x302, 0x2, 0x6b, 0x327, 0x3, 0x6c, 0x301, 0x2, 0x6c, 0x327, 0x2],
  [0x6c, 0x30c, 0x6, 0x6e, 0x301, 0x2, 0x6e, 0x327, 0x2, 0x6e, 0x30c, 0x5, 0x6f, 0x304, 0x2, 0x6f],
  [0x306, 0x2, 0x6f, 0x30b, 0x4, 0x72, 0x301, 0x2, 0x72, 0x327, 0x2, 0x72, 0x30c, 0x2, 0x73, 0x301],
  [0x2, 0x73, 0x302, 0x2, 0x73, 0x327, 0x2, 0x73, 0x30c, 0x2, 0x74, 0x327, 0x2, 0x74, 0x30c, 0x4],
  [0x75, 0x303, 0x2, 0x75, 0x304, 0x2, 0x75, 0x306, 0x2, 0x75, 0x30a, 0x2, 0x75, 0x30b, 0x2, 0x75],
  [0x328, 0x2, 0x77, 0x302, 0x2, 0x79, 0x302, 0x3, 0x7a, 0x301, 0x2, 0x7a, 0x307, 0x2, 0x7a, 0x30c],
  [0x23, 0x6f, 0x31b, 0xf, 0x75, 0x31b, 0x1e, 0x61, 0x30c, 0x2, 0x69, 0x30c, 0x2, 0x6f, 0x30c, 0x2],
  [0x75, 0x30c, 0x2, 0xfc, 0x304, 0x2, 0xfc, 0x301, 0x2, 0xfc, 0x30c, 0x2, 0xfc, 0x300, 0x3, 0xe4],
  [0x304, 0x2, 0x227, 0x304, 0x2, 0xe6, 0x304, 0x4, 0x67, 0x30c, 0x2, 0x6b, 0x30c, 0x2, 0x6f],
  [0x328, 0x2, 0x1eb, 0x304, 0x2, 0x292, 0x30c, 0x1, 0x6a, 0x30c, 0x5, 0x67, 0x301, 0x4, 0x6e],
  [0x300, 0x2, 0xe5, 0x301, 0x2, 0xe6, 0x301, 0x2, 0xf8, 0x301, 0x2, 0x61, 0x30f, 0x2, 0x61, 0x311],
  [0x2, 0x65, 0x30f, 0x2, 0x65, 0x311, 0x2, 0x69, 0x30f, 0x2, 0x69, 0x311, 0x2, 0x6f, 0x30f, 0x2],
  [0x6f, 0x311, 0x2, 0x72, 0x30f, 0x2, 0x72, 0x311, 0x2, 0x75, 0x30f, 0x2, 0x75, 0x311, 0x2, 0x73],
  [0x326, 0x2, 0x74, 0x326, 0x4, 0x68, 0x30c, 0x8, 0x61, 0x307, 0x2, 0x65, 0x327, 0x2, 0xf6, 0x304],
  [0x2, 0xf5, 0x304, 0x2, 0x6f, 0x307, 0x2, 0x22f, 0x304, 0x2, 0x79, 0x304, 0x15d, 0x3ca, 0x301],
  [0x1c, 0x3b1, 0x301, 0x1, 0x3b5, 0x301, 0x1, 0x3b7, 0x301, 0x1, 0x3b9, 0x301, 0x1, 0x3cb, 0x301],
  [0x1a, 0x3b9, 0x308, 0x1, 0x3c5, 0x308, 0x1, 0x3bf, 0x301, 0x1, 0x3c5, 0x301, 0x1, 0x3c9, 0x301],
  [0x6b, 0x438, 0x306, 0x17, 0x435, 0x300, 0x1, 0x435, 0x308, 0x2, 0x433, 0x301, 0x4, 0x456, 0x308],
  [0x5, 0x43a, 0x301, 0x1, 0x438, 0x300, 0x1, 0x443, 0x306, 0x19, 0x475, 0x30f, 0x4b, 0x436, 0x306],
  [0xf, 0x430, 0x306, 0x2, 0x430, 0x308, 0x4, 0x435, 0x306, 0x4, 0x4d9, 0x308, 0x2, 0x436, 0x308],
  [0x2, 0x437, 0x308, 0x4, 0x438, 0x304, 0x2, 0x438, 0x308, 0x2, 0x43e, 0x308, 0x4, 0x4e9, 0x308],
  [0x2, 0x44d, 0x308, 0x2, 0x443, 0x304, 0x2, 0x443, 0x308, 0x2, 0x443, 0x30b, 0x2, 0x447, 0x308],
  [0x4, 0x44b, 0x308, 0x129, 0x627, 0x653, 0x1, 0x627, 0x654, 0x1, 0x648, 0x654, 0x1, 0x627, 0x655],
  [0x1, 0x64a, 0x654, 0x9a, 0x6d5, 0x654, 0x2, 0x6c1, 0x654, 0x11, 0x6d2, 0x654, 0x256, 0x928],
  [0x93c, 0x8, 0x930, 0x93c, 0x3, 0x933, 0x93c, 0x97, 0x9c7, 0x9be, 0x1, 0x9c7, 0x9d7, 0x17c],
  [0xb47, 0xb56, 0x3, 0xb47, 0xb3e, 0x1, 0xb47, 0xb57, 0x48, 0xb92, 0xbd7, 0x36, 0xbc6, 0xbbe, 0x1],
  [0xbc7, 0xbbe, 0x1, 0xbc6, 0xbd7, 0x7c, 0xc46, 0xc56, 0x78, 0xcbf, 0xcd5, 0x7, 0xcc6, 0xcd5, 0x1],
  [0xcc6, 0xcd6, 0x2, 0xcc6, 0xcc2, 0x1, 0xcca, 0xcd5, 0x7f, 0xd46, 0xd3e, 0x1, 0xd47, 0xd3e, 0x1],
  [0xd46, 0xd57, 0x8e, 0xdd9, 0xdca, 0x2, 0xdd9, 0xdcf, 0x1, 0xddc, 0xdca, 0x1, 0xdd9, 0xddf],
  [0x248, 0x1025, 0x102e, 0xae0, 0x1b05, 0x1b35, 0x2, 0x1b07, 0x1b35, 0x2, 0x1b09, 0x1b35, 0x2],
  [0x1b0b, 0x1b35, 0x2, 0x1b0d, 0x1b35, 0x4, 0x1b11, 0x1b35, 0x29, 0x1b3a, 0x1b35, 0x2, 0x1b3c],
  [0x1b35, 0x3, 0x1b3e, 0x1b35, 0x1, 0x1b3f, 0x1b35, 0x2, 0x1b42, 0x1b35, 0x2be, 0x61, 0x325, 0x2],
  [0x62, 0x307, 0x2, 0x62, 0x323, 0x2, 0x62, 0x331, 0x2, 0xe7, 0x301, 0x2, 0x64, 0x307, 0x2, 0x64],
  [0x323, 0x2, 0x64, 0x331, 0x2, 0x64, 0x327, 0x2, 0x64, 0x32d, 0x2, 0x113, 0x300, 0x2, 0x113],
  [0x301, 0x2, 0x65, 0x32d, 0x2, 0x65, 0x330, 0x2, 0x229, 0x306, 0x2, 0x66, 0x307, 0x2, 0x67],
  [0x304, 0x2, 0x68, 0x307, 0x2, 0x68, 0x323, 0x2, 0x68, 0x308, 0x2, 0x68, 0x327, 0x2, 0x68, 0x32e],
  [0x2, 0x69, 0x330, 0x2, 0xef, 0x301, 0x2, 0x6b, 0x301, 0x2, 0x6b, 0x323, 0x2, 0x6b, 0x331, 0x2],
  [0x6c, 0x323, 0x2, 0x1e37, 0x304, 0x2, 0x6c, 0x331, 0x2, 0x6c, 0x32d, 0x2, 0x6d, 0x301, 0x2],
  [0x6d, 0x307, 0x2, 0x6d, 0x323, 0x2, 0x6e, 0x307, 0x2, 0x6e, 0x323, 0x2, 0x6e, 0x331, 0x2, 0x6e],
  [0x32d, 0x2, 0xf5, 0x301, 0x2, 0xf5, 0x308, 0x2, 0x14d, 0x300, 0x2, 0x14d, 0x301, 0x2, 0x70],
  [0x301, 0x2, 0x70, 0x307, 0x2, 0x72, 0x307, 0x2, 0x72, 0x323, 0x2, 0x1e5b, 0x304, 0x2, 0x72],
  [0x331, 0x2, 0x73, 0x307, 0x2, 0x73, 0x323, 0x2, 0x15b, 0x307, 0x2, 0x161, 0x307, 0x2, 0x1e63],
  [0x307, 0x2, 0x74, 0x307, 0x2, 0x74, 0x323, 0x2, 0x74, 0x331, 0x2, 0x74, 0x32d, 0x2, 0x75, 0x324],
  [0x2, 0x75, 0x330, 0x2, 0x75, 0x32d, 0x2, 0x169, 0x301, 0x2, 0x16b, 0x308, 0x2, 0x76, 0x303, 0x2],
  [0x76, 0x323, 0x2, 0x77, 0x300, 0x2, 0x77, 0x301, 0x2, 0x77, 0x308, 0x2, 0x77, 0x307, 0x2, 0x77],
  [0x323, 0x2, 0x78, 0x307, 0x2, 0x78, 0x308, 0x2, 0x79, 0x307, 0x2, 0x7a, 0x302, 0x2, 0x7a, 0x323],
  [0x2, 0x7a, 0x331, 0x1, 0x68, 0x331, 0x1, 0x74, 0x308, 0x1, 0x77, 0x30a, 0x1, 0x79, 0x30a, 0x8],
  [0x61, 0x323, 0x2, 0x61, 0x309, 0x2, 0xe2, 0x301, 0x2, 0xe2, 0x300, 0x2, 0xe2, 0x309, 0x2, 0xe2],
  [0x303, 0x2, 0x1ea1, 0x302, 0x2, 0x103, 0x301, 0x2, 0x103, 0x300, 0x2, 0x103, 0x309, 0x2, 0x103],
  [0x303, 0x2, 0x1ea1, 0x306, 0x2, 0x65, 0x323, 0x2, 0x65, 0x309, 0x2, 0x65, 0x303, 0x2, 0xea],
  [0x301, 0x2, 0xea, 0x300, 0x2, 0xea, 0x309, 0x2, 0xea, 0x303, 0x2, 0x1eb9, 0x302, 0x2, 0x69],
  [0x309, 0x2, 0x69, 0x323, 0x2, 0x6f, 0x323, 0x2, 0x6f, 0x309, 0x2, 0xf4, 0x301, 0x2, 0xf4, 0x300],
  [0x2, 0xf4, 0x309, 0x2, 0xf4, 0x303, 0x2, 0x1ecd, 0x302, 0x2, 0x1a1, 0x301, 0x2, 0x1a1, 0x300],
  [0x2, 0x1a1, 0x309, 0x2, 0x1a1, 0x303, 0x2, 0x1a1, 0x323, 0x2, 0x75, 0x323, 0x2, 0x75, 0x309],
  [0x2, 0x1b0, 0x301, 0x2, 0x1b0, 0x300, 0x2, 0x1b0, 0x309, 0x2, 0x1b0, 0x303, 0x2, 0x1b0, 0x323],
  [0x2, 0x79, 0x300, 0x2, 0x79, 0x323, 0x2, 0x79, 0x309, 0x2, 0x79, 0x303, 0x7, 0x3b1, 0x313, 0x1],
  [0x3b1, 0x314, 0x1, 0x1f00, 0x300, 0x1, 0x1f01, 0x300, 0x1, 0x1f00, 0x301, 0x1, 0x1f01, 0x301],
  [0x1, 0x1f00, 0x342, 0x1, 0x1f01, 0x342, 0x9, 0x3b5, 0x313, 0x1, 0x3b5, 0x314, 0x1, 0x1f10],
  [0x300, 0x1, 0x1f11, 0x300, 0x1, 0x1f10, 0x301, 0x1, 0x1f11, 0x301, 0xb, 0x3b7, 0x313, 0x1],
  [0x3b7, 0x314, 0x1, 0x1f20, 0x300, 0x1, 0x1f21, 0x300, 0x1, 0x1f20, 0x301, 0x1, 0x1f21, 0x301],
  [0x1, 0x1f20, 0x342, 0x1, 0x1f21, 0x342, 0x9, 0x3b9, 0x313, 0x1, 0x3b9, 0x314, 0x1, 0x1f30],
  [0x300, 0x1, 0x1f31, 0x300, 0x1, 0x1f30, 0x301, 0x1, 0x1f31, 0x301, 0x1, 0x1f30, 0x342, 0x1],
  [0x1f31, 0x342, 0x9, 0x3bf, 0x313, 0x1, 0x3bf, 0x314, 0x1, 0x1f40, 0x300, 0x1, 0x1f41, 0x300],
  [0x1, 0x1f40, 0x301, 0x1, 0x1f41, 0x301, 0xb, 0x3c5, 0x313, 0x1, 0x3c5, 0x314, 0x1, 0x1f50],
  [0x300, 0x1, 0x1f51, 0x300, 0x1, 0x1f50, 0x301, 0x1, 0x1f51, 0x301, 0x1, 0x1f50, 0x342, 0x1],
  [0x1f51, 0x342, 0x9, 0x3c9, 0x313, 0x1, 0x3c9, 0x314, 0x1, 0x1f60, 0x300, 0x1, 0x1f61, 0x300],
  [0x1, 0x1f60, 0x301, 0x1, 0x1f61, 0x301, 0x1, 0x1f60, 0x342, 0x1, 0x1f61, 0x342, 0x9, 0x3b1],
  [0x300, 0x2, 0x3b5, 0x300, 0x2, 0x3b7, 0x300, 0x2, 0x3b9, 0x300, 0x2, 0x3bf, 0x300, 0x2, 0x3c5],
  [0x300, 0x2, 0x3c9, 0x300, 0x34, 0x3b1, 0x306, 0x1, 0x3b1, 0x304, 0x5, 0x3b1, 0x342, 0x10, 0x3b7],
  [0x342, 0xa, 0x3b9, 0x306, 0x1, 0x3b9, 0x304, 0x1, 0x3ca, 0x300, 0x4, 0x3b9, 0x342, 0x1, 0x3ca],
  [0x342, 0x9, 0x3c5, 0x306, 0x1, 0x3c5, 0x304, 0x1, 0x3cb, 0x300, 0x2, 0x3c1, 0x313, 0x1, 0x3c1],
  [0x314, 0x1, 0x3c5, 0x342, 0x1, 0x3cb, 0x342, 0xf, 0x3c9, 0x342, 0x1a4, 0x2190, 0x338, 0x1],
  [0x2192, 0x338, 0x13, 0x2194, 0x338, 0x1f, 0x21d0, 0x338, 0x1, 0x21d4, 0x338, 0x1, 0x21d2, 0x338],
  [0x35, 0x2203, 0x338, 0x5, 0x2208, 0x338, 0x3, 0x220b, 0x338, 0x18, 0x2223, 0x338, 0x2, 0x2225],
  [0x338, 0x1b, 0x223c, 0x338, 0x3, 0x2243, 0x338, 0x3, 0x2245, 0x338, 0x2, 0x2248, 0x338, 0x17],
  [0x3d, 0x338, 0x2, 0x2261, 0x338, 0xb, 0x224d, 0x338, 0x1, 0x3c, 0x338, 0x1, 0x3e, 0x338, 0x1],
  [0x2264, 0x338, 0x1, 0x2265, 0x338, 0x3, 0x2272, 0x338, 0x1, 0x2273, 0x338, 0x3, 0x2276, 0x338],
  [0x1, 0x2277, 0x338, 0x7, 0x227a, 0x338, 0x1, 0x227b, 0x338, 0x3, 0x2282, 0x338, 0x1, 0x2283],
  [0x338, 0x3, 0x2286, 0x338, 0x1, 0x2287, 0x338, 0x23, 0x22a2, 0x338, 0x1, 0x22a8, 0x338, 0x1],
  [0x22a9, 0x338, 0x1, 0x22ab, 0x338, 0x31, 0x227c, 0x338, 0x1, 0x227d, 0x338, 0x1, 0x2291, 0x338],
  [0x1, 0x2292, 0x338, 0x7, 0x22b2, 0x338, 0x1, 0x22b3, 0x338, 0x1, 0x22b4, 0x338, 0x1, 0x22b5],
  [0x338, 0xd5f, 0x304b, 0x3099, 0x2, 0x304d, 0x3099, 0x2, 0x304f, 0x3099, 0x2, 0x3051, 0x3099],
  [0x2, 0x3053, 0x3099, 0x2, 0x3055, 0x3099, 0x2, 0x3057, 0x3099, 0x2, 0x3059, 0x3099, 0x2, 0x305b],
  [0x3099, 0x2, 0x305d, 0x3099, 0x2, 0x305f, 0x3099, 0x2, 0x3061, 0x3099, 0x3, 0x3064, 0x3099, 0x2],
  [0x3066, 0x3099, 0x2, 0x3068, 0x3099, 0x7, 0x306f, 0x3099, 0x1, 0x306f, 0x309a, 0x2, 0x3072],
  [0x3099, 0x1, 0x3072, 0x309a, 0x2, 0x3075, 0x3099, 0x1, 0x3075, 0x309a, 0x2, 0x3078, 0x3099, 0x1],
  [0x3078, 0x309a, 0x2, 0x307b, 0x3099, 0x1, 0x307b, 0x309a, 0x17, 0x3046, 0x3099, 0xa, 0x309d],
  [0x3099, 0xe, 0x30ab, 0x3099, 0x2, 0x30ad, 0x3099, 0x2, 0x30af, 0x3099, 0x2, 0x30b1, 0x3099, 0x2],
  [0x30b3, 0x3099, 0x2, 0x30b5, 0x3099, 0x2, 0x30b7, 0x3099, 0x2, 0x30b9, 0x3099, 0x2, 0x30bb],
  [0x3099, 0x2, 0x30bd, 0x3099, 0x2, 0x30bf, 0x3099, 0x2, 0x30c1, 0x3099, 0x3, 0x30c4, 0x3099, 0x2],
  [0x30c6, 0x3099, 0x2, 0x30c8, 0x3099, 0x7, 0x30cf, 0x3099, 0x1, 0x30cf, 0x309a, 0x2, 0x30d2],
  [0x3099, 0x1, 0x30d2, 0x309a, 0x2, 0x30d5, 0x3099, 0x1, 0x30d5, 0x309a, 0x2, 0x30d8, 0x3099, 0x1],
  [0x30d8, 0x309a, 0x2, 0x30db, 0x3099, 0x1, 0x30db, 0x309a, 0x17, 0x30a6, 0x3099, 0x3, 0x30ef],
  [0x3099, 0x1, 0x30f0, 0x3099, 0x1, 0x30f1, 0x3099, 0x1, 0x30f2, 0x3099, 0x4, 0x30fd, 0x3099],
  [0xd4cb, 0x105d2, 0x307, 0x1b, 0x105da, 0x307, 0xab6, 0x11099, 0x110ba, 0x2, 0x1109b, 0x110ba],
  [0xf, 0x110a5, 0x110ba, 0x83, 0x11131, 0x11127, 0x1, 0x11132, 0x11127, 0x21c, 0x11347, 0x1133e],
  [0x1, 0x11347, 0x11357, 0x37, 0x11382, 0x113c9, 0x2, 0x11384, 0x113bb, 0x9, 0x1138b, 0x113c2],
  [0x3, 0x11390, 0x113c9, 0x34, 0x113c2, 0x113c2, 0x2, 0x113c2, 0x113b8, 0x1, 0x113c2, 0x113c9],
  [0xf3, 0x114b9, 0x114ba, 0x1, 0x114b9, 0x114b0, 0x2, 0x114b9, 0x114bd, 0xfc, 0x115b8, 0x115af],
  [0x1, 0x115b9, 0x115af, 0x37d, 0x11935, 0x11930, 0x47e9, 0x1611e, 0x1611e, 0x1, 0x1611e, 0x16129],
  [0x1, 0x1611e, 0x1611f, 0x1, 0x16129, 0x1611f, 0x1, 0x1611e, 0x16120, 0x1, 0x16121, 0x1611f, 0x1],
  [0x16122, 0x1611f, 0x1, 0x16121, 0x16120, 0xc40, 0x16d67, 0x16d67, 0x1, 0x16d63, 0x16d67, 0x1],
  [0x16d69, 0x16d67]]

/-- Spans of one combining class other than 0: the gap after the span before, the
length less one and the class. -/
def classesRows : List (List Nat) := [
  [0x300, 0x14, 0xe6, 0x1, 0x0, 0xe8, 0x1, 0x3, 0xdc, 0x1, 0x0, 0xe8, 0x1, 0x0, 0xd8, 0x1, 0x4],
  [0xdc, 0x1, 0x1, 0xca, 0x1, 0x3, 0xdc, 0x1, 0x1, 0xca, 0x1, 0xa, 0xdc, 0x1, 0x4, 0x1, 0x1, 0x3],
  [0xdc, 0x1, 0x9, 0xe6, 0x1, 0x2, 0xdc, 0x1, 0x2, 0xe6, 0x1, 0x1, 0xdc, 0x2, 0x2, 0xe6, 0x1, 0x3],
  [0xdc, 0x1, 0x0, 0xe6, 0x1, 0x0, 0xe8, 0x1, 0x1, 0xdc, 0x1, 0x0, 0xe6, 0x1, 0x0, 0xe9, 0x1, 0x1],
  [0xea, 0x1, 0x0, 0xe9, 0x1, 0x1, 0xea, 0x1, 0x0, 0xe9, 0x1, 0xc, 0xe6, 0x114, 0x4, 0xe6, 0x10a],
  [0x0, 0xdc, 0x1, 0x3, 0xe6, 0x1, 0x0, 0xdc, 0x1, 0x2, 0xe6, 0x1, 0x0, 0xde, 0x1, 0x0, 0xdc, 0x1],
  [0x5, 0xe6, 0x1, 0x5, 0xdc, 0x1, 0x1, 0xe6, 0x1, 0x0, 0xdc, 0x1, 0x1, 0xe6, 0x1, 0x0, 0xde, 0x1],
  [0x0, 0xe4, 0x1, 0x0, 0xe6, 0x1, 0x0, 0xa, 0x1, 0x0, 0xb, 0x1, 0x0, 0xc, 0x1, 0x0, 0xd, 0x1, 0x0],
  [0xe, 0x1, 0x0, 0xf, 0x1, 0x0, 0x10, 0x1, 0x0, 0x11, 0x1, 0x0, 0x12, 0x1, 0x1, 0x13, 0x1, 0x0],
  [0x14, 0x1, 0x0, 0x15, 0x1, 0x0, 0x16, 0x2, 0x0, 0x17, 0x2, 0x0, 0x18, 0x1, 0x0, 0x19, 0x2, 0x0],
  [0xe6, 0x1, 0x0, 0xdc, 0x2, 0x0, 0x12, 0x49, 0x7, 0xe6, 0x1, 0x0, 0x1e, 0x1, 0x0, 0x1f, 0x1, 0x0],
  [0x20, 0x31, 0x0, 0x1b, 0x1, 0x0, 0x1c, 0x1, 0x0, 0x1d, 0x1, 0x0, 0x1e, 0x1, 0x0, 0x1f, 0x1, 0x0],
  [0x20, 0x1, 0x0, 0x21, 0x1, 0x0, 0x22, 0x1, 0x1, 0xe6, 0x1, 0x1, 0xdc, 0x1, 0x4, 0xe6, 0x1, 0x0],
  [0xdc, 0x1, 0x1, 0xe6, 0x1, 0x0, 0xdc, 0x11, 0x0, 0x23, 0x66, 0x6, 0xe6, 0x3, 0x3, 0xe6, 0x1],
  [0x0, 0xdc, 0x1, 0x0, 0xe6, 0x3, 0x1, 0xe6, 0x2, 0x0, 0xdc, 0x1, 0x1, 0xe6, 0x1, 0x0, 0xdc, 0x24],
  [0x0, 0x24, 0x1f, 0x0, 0xe6, 0x1, 0x0, 0xdc, 0x1, 0x1, 0xe6, 0x1, 0x0, 0xdc, 0x1, 0x1, 0xe6, 0x1],
  [0x2, 0xdc, 0x1, 0x0, 0xe6, 0x1, 0x1, 0xdc, 0x1, 0x0, 0xe6, 0x1, 0x0, 0xdc, 0x1, 0x2, 0xe6, 0x1],
  [0x0, 0xdc, 0x1, 0x0, 0xe6, 0x1, 0x0, 0xdc, 0x1, 0x0, 0xe6, 0x1, 0x0, 0xdc, 0x1, 0x0, 0xe6, 0x1],
  [0x0, 0xdc, 0x1, 0x1, 0xe6, 0xa1, 0x6, 0xe6, 0x1, 0x0, 0xdc, 0x1, 0x0, 0xe6, 0xa, 0x0, 0xdc],
  [0x19, 0x3, 0xe6, 0x2, 0x8, 0xe6, 0x2, 0x2, 0xe6, 0x2, 0x4, 0xe6, 0x2c, 0x2, 0xdc, 0x3d, 0x0],
  [0xe6, 0x1, 0x2, 0xdc, 0x1, 0x3, 0xe6, 0x2b, 0x4, 0xe6, 0x1, 0x4, 0xdc, 0x1, 0xd, 0xe6, 0x2, 0x0],
  [0xdc, 0x1, 0x1, 0xe6, 0x1, 0x0, 0xdc, 0x1, 0x1, 0xe6, 0x1, 0x0, 0xdc, 0x1, 0x2, 0xe6, 0x1, 0x2],
  [0xdc, 0x1, 0x0, 0x1b, 0x1, 0x0, 0x1c, 0x1, 0x0, 0x1d, 0x1, 0x2, 0xe6, 0x1, 0x0, 0xdc, 0x1, 0x1],
  [0xe6, 0x1, 0x1, 0xdc, 0x1, 0x4, 0xe6, 0x3d, 0x0, 0x7, 0x11, 0x0, 0x9, 0x4, 0x0, 0xe6, 0x1, 0x0],
  [0xdc, 0x1, 0x1, 0xe6, 0x68, 0x0, 0x7, 0x11, 0x0, 0x9, 0x31, 0x0, 0xe6, 0x3e, 0x0, 0x7, 0x11],
  [0x0, 0x9, 0x6f, 0x0, 0x7, 0x11, 0x0, 0x9, 0x6f, 0x0, 0x7, 0x11, 0x0, 0x9, 0x80, 0x0, 0x9, 0x6f],
  [0x0, 0x7, 0x11, 0x0, 0x9, 0x8, 0x0, 0x54, 0x1, 0x0, 0x5b, 0x66, 0x0, 0x7, 0x11, 0x0, 0x9, 0x6e],
  [0x1, 0x9, 0x11, 0x0, 0x9, 0x7d, 0x0, 0x9, 0x6e, 0x1, 0x67, 0x1, 0x0, 0x9, 0xe, 0x3, 0x6b, 0x6d],
  [0x1, 0x76, 0x1, 0x0, 0x9, 0xe, 0x3, 0x7a, 0x4d, 0x1, 0xdc, 0x1c, 0x0, 0xdc, 0x2, 0x0, 0xdc, 0x2],
  [0x0, 0xd8, 0x38, 0x0, 0x81, 0x1, 0x0, 0x82, 0x2, 0x0, 0x84, 0x6, 0x3, 0x82, 0x3, 0x0, 0x82, 0x2],
  [0x1, 0xe6, 0x1, 0x0, 0x9, 0x2, 0x1, 0xe6, 0x3f, 0x0, 0xdc, 0x71, 0x0, 0x7, 0x2, 0x1, 0x9, 0x53],
  [0x0, 0xdc, 0x2d0, 0x2, 0xe6, 0x3b5, 0x1, 0x9, 0x1f, 0x0, 0x9, 0x9e, 0x0, 0x9, 0xb, 0x0, 0xe6],
  [0xcc, 0x0, 0xe4, 0x90, 0x0, 0xde, 0x1, 0x0, 0xe6, 0x1, 0x0, 0xdc, 0xdc, 0x0, 0xe6, 0x1, 0x0],
  [0xdc, 0x48, 0x0, 0x9, 0x15, 0x7, 0xe6, 0x3, 0x0, 0xdc, 0x31, 0x4, 0xe6, 0x1, 0x5, 0xdc, 0x1],
  [0x1, 0xe6, 0x1, 0x0, 0xdc, 0x2, 0x1, 0xdc, 0x1, 0x1, 0xe6, 0x1, 0x1, 0xdc, 0x1, 0x4, 0xe6, 0x1],
  [0x0, 0xdc, 0x1, 0x3, 0xe6, 0x66, 0x0, 0x7, 0x10, 0x0, 0x9, 0x27, 0x0, 0xe6, 0x1, 0x0, 0xdc, 0x1],
  [0x6, 0xe6, 0x37, 0x1, 0x9, 0x3b, 0x0, 0x7, 0xc, 0x1, 0x9, 0x44, 0x0, 0x7, 0x99, 0x2, 0xe6, 0x2],
  [0x0, 0x1, 0x1, 0x4, 0xdc, 0x1, 0x1, 0xe6, 0x1, 0x3, 0xdc, 0x1, 0x0, 0xe6, 0x2, 0x6, 0x1, 0x5],
  [0x0, 0xdc, 0x7, 0x0, 0xe6, 0x4, 0x1, 0xe6, 0xc7, 0x1, 0xe6, 0x1, 0x0, 0xdc, 0x1, 0x6, 0xe6, 0x1],
  [0x0, 0xdc, 0x1, 0x1, 0xe6, 0x1, 0x0, 0xea, 0x1, 0x0, 0xd6, 0x1, 0x0, 0xdc, 0x1, 0x0, 0xca, 0x1],
  [0x24, 0xe6, 0x1, 0x0, 0xe8, 0x1, 0x1, 0xe4, 0x1, 0x0, 0xdc, 0x1, 0x0, 0xda, 0x1, 0x0, 0xe6, 0x1],
  [0x0, 0xe9, 0x1, 0x0, 0xdc, 0x1, 0x0, 0xe6, 0x1, 0x0, 0xdc, 0x2d1, 0x1, 0xe6, 0x1, 0x1, 0x1, 0x1],
  [0x3, 0xe6, 0x1, 0x2, 0x1, 0x1, 0x1, 0xe6, 0x5, 0x0, 0xe6, 0x4, 0x1, 0x1, 0x1, 0x0, 0xe6, 0x1],
  [0x0, 0xdc, 0x1, 0x0, 0xe6, 0x1, 0x1, 0x1, 0x1, 0x3, 0xdc, 0x1, 0x0, 0xe6, 0xbff, 0x2, 0xe6],
  [0x8e, 0x0, 0x9, 0x61, 0x1f, 0xe6, 0x22b, 0x0, 0xda, 0x1, 0x0, 0xe4, 0x1, 0x0, 0xe8, 0x1, 0x0],
  [0xde, 0x1, 0x1, 0xe0, 0x6a, 0x1, 0x8, 0x75d5, 0x0, 0xe6, 0x5, 0x9, 0xe6, 0x21, 0x1, 0xe6, 0x51],
  [0x1, 0xe6, 0x115, 0x0, 0x9, 0x26, 0x0, 0x9, 0x98, 0x0, 0x9, 0x1c, 0x11, 0xe6, 0x3a, 0x2, 0xdc],
  [0x26, 0x0, 0x9, 0x60, 0x0, 0x7, 0xd, 0x0, 0x9, 0xf0, 0x0, 0xe6, 0x2, 0x1, 0xe6, 0x1, 0x0, 0xdc],
  [0x3, 0x1, 0xe6, 0x6, 0x1, 0xe6, 0x2, 0x0, 0xe6, 0x35, 0x0, 0x9, 0xf7, 0x0, 0x9, 0x4f31, 0x0],
  [0x1a, 0x302, 0x6, 0xe6, 0x1, 0x6, 0xdc, 0x1, 0x1, 0xe6, 0x3ce, 0x0, 0xdc, 0xe3, 0x0, 0xdc, 0x96],
  [0x4, 0xe6, 0x693, 0x0, 0xdc, 0x2, 0x0, 0xe6, 0x29, 0x0, 0xe6, 0x1, 0x0, 0x1, 0x1, 0x0, 0xdc],
  [0x5, 0x0, 0x9, 0xa6, 0x0, 0xe6, 0x1, 0x0, 0xdc, 0x23e, 0x3, 0xe6, 0x184, 0x1, 0xe6, 0x51, 0x2],
  [0xdc, 0x47, 0x1, 0xdc, 0x1, 0x2, 0xe6, 0x1, 0x0, 0xdc, 0x1, 0x0, 0xe6, 0x1, 0x3, 0xdc, 0x32],
  [0x0, 0xe6, 0x1, 0x0, 0xdc, 0x1, 0x0, 0xe6, 0x1, 0x0, 0xdc, 0xc1, 0x0, 0x9, 0x2a, 0x0, 0x9, 0xf],
  [0x0, 0x9, 0x3a, 0x0, 0x9, 0x1, 0x0, 0x7, 0x46, 0x2, 0xe6, 0x31, 0x1, 0x9, 0x3f, 0x0, 0x7, 0x4d],
  [0x0, 0x9, 0xa, 0x0, 0x7, 0x6b, 0x0, 0x9, 0x1, 0x0, 0x7, 0xb3, 0x0, 0x7, 0x1, 0x0, 0x9, 0x51],
  [0x1, 0x7, 0x11, 0x0, 0x9, 0x19, 0xe, 0xe6, 0xce, 0x0, 0x9, 0x4, 0x0, 0x7, 0x18, 0x0, 0xe6, 0x64],
  [0x0, 0x9, 0x1, 0x0, 0x7, 0xfc, 0x0, 0x9, 0x1, 0x0, 0x7, 0x7f, 0x0, 0x9, 0x77, 0x0, 0x9, 0x1],
  [0x0, 0x7, 0x74, 0x0, 0x9, 0x10e, 0x0, 0x9, 0x1, 0x0, 0x7, 0x103, 0x1, 0x9, 0x5, 0x0, 0x7, 0x9d],
  [0x0, 0x9, 0x54, 0x0, 0x9, 0x13, 0x0, 0x9, 0x52, 0x0, 0x9, 0x1a6, 0x0, 0x9, 0x103, 0x0, 0x7, 0x2],
  [0x1, 0x9, 0x52, 0x0, 0x9, 0x1aa, 0x1, 0x9, 0x4bae, 0x4, 0x1, 0x3c, 0x6, 0xe6, 0x4ba, 0x1, 0x6],
  [0x4cad, 0x0, 0x1, 0x14c7, 0x1, 0xd8, 0x1, 0x2, 0x1, 0x4, 0x0, 0xe2, 0x1, 0x4, 0xd8, 0x9, 0x7],
  [0xdc, 0x3, 0x4, 0xe6, 0x1, 0x1, 0xdc, 0x1f, 0x3, 0xe6, 0x95, 0x2, 0xe6, 0xdbc, 0x8f, 0xe6, 0xa1],
  [0x6, 0xe6, 0x178, 0x0, 0xe6, 0x3e, 0x3, 0xe6, 0x1fd, 0x1, 0xe8, 0x1, 0x0, 0xdc, 0x1, 0x0, 0xe6],
  [0x3e1, 0x6, 0xdc, 0x6e, 0x5, 0xe6, 0x1, 0x0, 0x7]]

end PageHost.Url.Domain

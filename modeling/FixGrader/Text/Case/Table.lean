/-!
# Case mappings of single characters

Runs of characters with the same distance to their counterpart. Four numbers make a run: the first
character, how many there are, the step from one to the next, and the distance from each to its
counterpart. The values are those of the Unicode character database.
-/
namespace FixGrader.Text

/-- Lower-case counterparts, for every character that has exactly one. -/
def lowerRuns : List (Nat × Nat × Nat × Int) := [
  (0x41, 0x1a, 1, 0x20), (0xc0, 0x17, 1, 0x20), (0xd8, 7, 1, 0x20), (0x100, 0x18, 2, 1),
  (0x132, 3, 2, 1), (0x139, 8, 2, 1), (0x14a, 0x17, 2, 1), (0x178, 1, 1, -0x79), (0x179, 3, 2, 1),
  (0x181, 1, 1, 0xd2), (0x182, 2, 2, 1), (0x186, 1, 1, 0xce), (0x187, 1, 1, 1),
  (0x189, 2, 1, 0xcd), (0x18b, 1, 1, 1), (0x18e, 1, 1, 0x4f), (0x18f, 1, 1, 0xca),
  (0x190, 1, 1, 0xcb), (0x191, 1, 1, 1), (0x193, 1, 1, 0xcd), (0x194, 1, 1, 0xcf),
  (0x196, 1, 1, 0xd3), (0x197, 1, 1, 0xd1), (0x198, 1, 1, 1), (0x19c, 1, 1, 0xd3),
  (0x19d, 1, 1, 0xd5), (0x19f, 1, 1, 0xd6), (0x1a0, 3, 2, 1), (0x1a6, 1, 1, 0xda),
  (0x1a7, 1, 1, 1), (0x1a9, 1, 1, 0xda), (0x1ac, 1, 1, 1), (0x1ae, 1, 1, 0xda), (0x1af, 1, 1, 1),
  (0x1b1, 2, 1, 0xd9), (0x1b3, 2, 2, 1), (0x1b7, 1, 1, 0xdb), (0x1b8, 1, 1, 1), (0x1bc, 1, 1, 1),
  (0x1c4, 1, 1, 2), (0x1c5, 1, 1, 1), (0x1c7, 1, 1, 2), (0x1c8, 1, 1, 1), (0x1ca, 1, 1, 2),
  (0x1cb, 9, 2, 1), (0x1de, 9, 2, 1), (0x1f1, 1, 1, 2), (0x1f2, 2, 2, 1), (0x1f6, 1, 1, -0x61),
  (0x1f7, 1, 1, -0x38), (0x1f8, 0x14, 2, 1), (0x220, 1, 1, -0x82), (0x222, 9, 2, 1),
  (0x23a, 1, 1, 0x2a2b), (0x23b, 1, 1, 1), (0x23d, 1, 1, -0xa3), (0x23e, 1, 1, 0x2a28),
  (0x241, 1, 1, 1), (0x243, 1, 1, -0xc3), (0x244, 1, 1, 0x45), (0x245, 1, 1, 0x47),
  (0x246, 5, 2, 1), (0x370, 2, 2, 1), (0x376, 1, 1, 1), (0x37f, 1, 1, 0x74), (0x386, 1, 1, 0x26),
  (0x388, 3, 1, 0x25), (0x38c, 1, 1, 0x40), (0x38e, 2, 1, 0x3f), (0x391, 0x11, 1, 0x20),
  (0x3a3, 9, 1, 0x20), (0x3cf, 1, 1, 8), (0x3d8, 0xc, 2, 1), (0x3f4, 1, 1, -0x3c),
  (0x3f7, 1, 1, 1), (0x3f9, 1, 1, -0x7), (0x3fa, 1, 1, 1), (0x3fd, 3, 1, -0x82),
  (0x400, 0x10, 1, 0x50), (0x410, 0x20, 1, 0x20), (0x460, 0x11, 2, 1), (0x48a, 0x1b, 2, 1),
  (0x4c0, 1, 1, 0xf), (0x4c1, 7, 2, 1), (0x4d0, 0x30, 2, 1), (0x531, 0x26, 1, 0x30),
  (0x10a0, 0x26, 1, 0x1c60), (0x10c7, 1, 1, 0x1c60), (0x10cd, 1, 1, 0x1c60),
  (0x13a0, 0x50, 1, 0x97d0), (0x13f0, 6, 1, 8), (0x1c89, 1, 1, 1), (0x1c90, 0x2b, 1, -0xbc0),
  (0x1cbd, 3, 1, -0xbc0), (0x1e00, 0x4b, 2, 1), (0x1e9e, 1, 1, -0x1dbf), (0x1ea0, 0x30, 2, 1),
  (0x1f08, 8, 1, -0x8), (0x1f18, 6, 1, -0x8), (0x1f28, 8, 1, -0x8), (0x1f38, 8, 1, -0x8),
  (0x1f48, 6, 1, -0x8), (0x1f59, 4, 2, -0x8), (0x1f68, 8, 1, -0x8), (0x1f88, 8, 1, -0x8),
  (0x1f98, 8, 1, -0x8), (0x1fa8, 8, 1, -0x8), (0x1fb8, 2, 1, -0x8), (0x1fba, 2, 1, -0x4a),
  (0x1fbc, 1, 1, -0x9), (0x1fc8, 4, 1, -0x56), (0x1fcc, 1, 1, -0x9), (0x1fd8, 2, 1, -0x8),
  (0x1fda, 2, 1, -0x64), (0x1fe8, 2, 1, -0x8), (0x1fea, 2, 1, -0x70), (0x1fec, 1, 1, -0x7),
  (0x1ff8, 2, 1, -0x80), (0x1ffa, 2, 1, -0x7e), (0x1ffc, 1, 1, -0x9), (0x2126, 1, 1, -0x1d5d),
  (0x212a, 1, 1, -0x20bf), (0x212b, 1, 1, -0x2046), (0x2132, 1, 1, 0x1c), (0x2160, 0x10, 1, 0x10),
  (0x2183, 1, 1, 1), (0x24b6, 0x1a, 1, 0x1a), (0x2c00, 0x30, 1, 0x30), (0x2c60, 1, 1, 1),
  (0x2c62, 1, 1, -0x29f7), (0x2c63, 1, 1, -0xee6), (0x2c64, 1, 1, -0x29e7), (0x2c67, 3, 2, 1),
  (0x2c6d, 1, 1, -0x2a1c), (0x2c6e, 1, 1, -0x29fd), (0x2c6f, 1, 1, -0x2a1f),
  (0x2c70, 1, 1, -0x2a1e), (0x2c72, 1, 1, 1), (0x2c75, 1, 1, 1), (0x2c7e, 2, 1, -0x2a3f),
  (0x2c80, 0x32, 2, 1), (0x2ceb, 2, 2, 1), (0x2cf2, 1, 1, 1), (0xa640, 0x17, 2, 1),
  (0xa680, 0xe, 2, 1), (0xa722, 7, 2, 1), (0xa732, 0x1f, 2, 1), (0xa779, 2, 2, 1),
  (0xa77d, 1, 1, -0x8a04), (0xa77e, 5, 2, 1), (0xa78b, 1, 1, 1), (0xa78d, 1, 1, -0xa528),
  (0xa790, 2, 2, 1), (0xa796, 0xa, 2, 1), (0xa7aa, 1, 1, -0xa544), (0xa7ab, 1, 1, -0xa54f),
  (0xa7ac, 1, 1, -0xa54b), (0xa7ad, 1, 1, -0xa541), (0xa7ae, 1, 1, -0xa544),
  (0xa7b0, 1, 1, -0xa512), (0xa7b1, 1, 1, -0xa52a), (0xa7b2, 1, 1, -0xa515), (0xa7b3, 1, 1, 0x3a0),
  (0xa7b4, 8, 2, 1), (0xa7c4, 1, 1, -0x30), (0xa7c5, 1, 1, -0xa543), (0xa7c6, 1, 1, -0x8a38),
  (0xa7c7, 2, 2, 1), (0xa7cb, 1, 1, -0xa567), (0xa7cc, 1, 1, 1), (0xa7d0, 1, 1, 1),
  (0xa7d6, 3, 2, 1), (0xa7dc, 1, 1, -0xa641), (0xa7f5, 1, 1, 1), (0xff21, 0x1a, 1, 0x20),
  (0x10400, 0x28, 1, 0x28), (0x104b0, 0x24, 1, 0x28), (0x10570, 0x13, 2, 0x27),
  (0x10571, 5, 2, 0x27), (0x1057d, 7, 2, 0x27), (0x1058d, 3, 2, 0x27), (0x10595, 1, 1, 0x27),
  (0x10c80, 0x33, 1, 0x40), (0x10d50, 0x16, 1, 0x20), (0x118a0, 0x20, 1, 0x20),
  (0x16e40, 0x20, 1, 0x20), (0x1e900, 0x22, 1, 0x22)]

/-- Pairs of characters that differ only in case, from the smaller to the larger one. -/
def foldRuns : List (Nat × Nat × Nat × Int) := [
  (0x41, 0xa, 1, 0x20), (0x4c, 8, 2, 0x20), (0x4d, 3, 2, 0x20), (0x55, 3, 2, 0x20),
  (0xc0, 0x10, 2, 0x20), (0xc1, 2, 2, 0x20), (0xc7, 8, 2, 0x20), (0xd9, 3, 2, 0x20),
  (0xdf, 1, 1, 0x1dbf), (0xff, 1, 1, 0x79), (0x100, 0x18, 2, 1), (0x132, 3, 2, 1),
  (0x139, 8, 2, 1), (0x14a, 0x17, 2, 1), (0x179, 3, 2, 1), (0x180, 1, 1, 0xc3),
  (0x181, 1, 1, 0xd2), (0x182, 2, 2, 1), (0x186, 1, 1, 0xce), (0x187, 1, 1, 1),
  (0x189, 2, 1, 0xcd), (0x18b, 1, 1, 1), (0x18e, 1, 1, 0x4f), (0x18f, 1, 1, 0xca),
  (0x190, 1, 1, 0xcb), (0x191, 1, 1, 1), (0x193, 1, 1, 0xcd), (0x194, 1, 1, 0xcf),
  (0x195, 1, 1, 0x61), (0x196, 1, 1, 0xd3), (0x197, 1, 1, 0xd1), (0x198, 1, 1, 1),
  (0x19a, 1, 1, 0xa3), (0x19b, 1, 1, 0xa641), (0x19c, 1, 1, 0xd3), (0x19d, 1, 1, 0xd5),
  (0x19e, 1, 1, 0x82), (0x19f, 1, 1, 0xd6), (0x1a0, 3, 2, 1), (0x1a6, 1, 1, 0xda),
  (0x1a7, 1, 1, 1), (0x1a9, 1, 1, 0xda), (0x1ac, 1, 1, 1), (0x1ae, 1, 1, 0xda), (0x1af, 1, 1, 1),
  (0x1b1, 2, 1, 0xd9), (0x1b3, 2, 2, 1), (0x1b7, 1, 1, 0xdb), (0x1b8, 1, 1, 1), (0x1bc, 1, 1, 1),
  (0x1bf, 1, 1, 0x38), (0x1cd, 8, 2, 1), (0x1de, 9, 2, 1), (0x1f4, 1, 1, 1), (0x1f8, 0x14, 2, 1),
  (0x222, 9, 2, 1), (0x23a, 1, 1, 0x2a2b), (0x23b, 1, 1, 1), (0x23e, 1, 1, 0x2a28),
  (0x23f, 2, 1, 0x2a3f), (0x241, 1, 1, 1), (0x244, 1, 1, 0x45), (0x245, 1, 1, 0x47),
  (0x246, 5, 2, 1), (0x250, 1, 1, 0x2a1f), (0x251, 1, 1, 0x2a1c), (0x252, 1, 1, 0x2a1e),
  (0x25c, 1, 1, 0xa54f), (0x261, 1, 1, 0xa54b), (0x264, 1, 1, 0xa567), (0x265, 1, 1, 0xa528),
  (0x266, 1, 1, 0xa544), (0x26a, 1, 1, 0xa544), (0x26b, 1, 1, 0x29f7), (0x26c, 1, 1, 0xa541),
  (0x271, 1, 1, 0x29fd), (0x27d, 1, 1, 0x29e7), (0x282, 1, 1, 0xa543), (0x287, 1, 1, 0xa52a),
  (0x29d, 1, 1, 0xa515), (0x29e, 1, 1, 0xa512), (0x370, 2, 2, 1), (0x376, 1, 1, 1),
  (0x37b, 3, 1, 0x82), (0x37f, 1, 1, 0x74), (0x386, 1, 1, 0x26), (0x388, 3, 1, 0x25),
  (0x38c, 1, 1, 0x40), (0x38e, 2, 1, 0x3f), (0x390, 1, 1, 0x1c43), (0x391, 2, 2, 0x20),
  (0x394, 2, 2, 0x20), (0x397, 1, 1, 0x20), (0x39b, 3, 2, 0x20), (0x39e, 1, 1, 0x20),
  (0x3a4, 2, 1, 0x20), (0x3a7, 2, 1, 0x20), (0x3aa, 2, 1, 0x20), (0x3b0, 1, 1, 0x1c33),
  (0x3cf, 1, 1, 8), (0x3d8, 0xc, 2, 1), (0x3f2, 1, 1, 7), (0x3f7, 1, 1, 1), (0x3fa, 1, 1, 1),
  (0x400, 0x10, 1, 0x50), (0x410, 2, 1, 0x20), (0x413, 7, 2, 0x20), (0x416, 4, 2, 0x20),
  (0x420, 1, 1, 0x20), (0x423, 7, 1, 0x20), (0x42b, 5, 1, 0x20), (0x460, 1, 1, 1),
  (0x464, 0xf, 2, 1), (0x48a, 0x1b, 2, 1), (0x4c0, 1, 1, 0xf), (0x4c1, 7, 2, 1),
  (0x4d0, 0x30, 2, 1), (0x531, 0x26, 1, 0x30), (0x10a0, 0x26, 1, 0x1c60), (0x10c7, 1, 1, 0x1c60),
  (0x10cd, 1, 1, 0x1c60), (0x10d0, 0x2b, 1, 0xbc0), (0x10fd, 3, 1, 0xbc0),
  (0x13a0, 0x50, 1, 0x97d0), (0x13f0, 6, 1, 8), (0x1c89, 1, 1, 1), (0x1d79, 1, 1, 0x8a04),
  (0x1d7d, 1, 1, 0xee6), (0x1d8e, 1, 1, 0x8a38), (0x1e00, 0x30, 2, 1), (0x1e62, 0x1a, 2, 1),
  (0x1ea0, 0x30, 2, 1), (0x1f00, 8, 1, 8), (0x1f10, 6, 1, 8), (0x1f20, 8, 1, 8), (0x1f30, 8, 1, 8),
  (0x1f40, 6, 1, 8), (0x1f51, 4, 2, 8), (0x1f60, 8, 1, 8), (0x1f70, 2, 1, 0x4a),
  (0x1f72, 4, 1, 0x56), (0x1f76, 2, 1, 0x64), (0x1f78, 2, 1, 0x80), (0x1f7a, 2, 1, 0x70),
  (0x1f7c, 2, 1, 0x7e), (0x1f80, 8, 1, 8), (0x1f90, 8, 1, 8), (0x1fa0, 8, 1, 8), (0x1fb0, 2, 1, 8),
  (0x1fb3, 1, 1, 9), (0x1fc3, 1, 1, 9), (0x1fd0, 2, 1, 8), (0x1fe0, 2, 1, 8), (0x1fe5, 1, 1, 7),
  (0x1ff3, 1, 1, 9), (0x2132, 1, 1, 0x1c), (0x2160, 0x10, 1, 0x10), (0x2183, 1, 1, 1),
  (0x24b6, 0x1a, 1, 0x1a), (0x2c00, 0x30, 1, 0x30), (0x2c60, 1, 1, 1), (0x2c67, 3, 2, 1),
  (0x2c72, 1, 1, 1), (0x2c75, 1, 1, 1), (0x2c80, 0x32, 2, 1), (0x2ceb, 2, 2, 1), (0x2cf2, 1, 1, 1),
  (0xa640, 5, 2, 1), (0xa64c, 0x11, 2, 1), (0xa680, 0xe, 2, 1), (0xa722, 7, 2, 1),
  (0xa732, 0x1f, 2, 1), (0xa779, 2, 2, 1), (0xa77e, 5, 2, 1), (0xa78b, 1, 1, 1), (0xa790, 2, 2, 1),
  (0xa794, 1, 1, 0x30), (0xa796, 0xa, 2, 1), (0xa7b3, 1, 1, 0x3a0), (0xa7b4, 8, 2, 1),
  (0xa7c7, 2, 2, 1), (0xa7cc, 1, 1, 1), (0xa7d0, 1, 1, 1), (0xa7d6, 3, 2, 1), (0xa7f5, 1, 1, 1),
  (0xfb05, 1, 1, 1), (0xff21, 0x1a, 1, 0x20), (0x10400, 0x28, 1, 0x28), (0x104b0, 0x24, 1, 0x28),
  (0x10570, 0x13, 2, 0x27), (0x10571, 5, 2, 0x27), (0x1057d, 7, 2, 0x27), (0x1058d, 3, 2, 0x27),
  (0x10595, 1, 1, 0x27), (0x10c80, 0x33, 1, 0x40), (0x10d50, 0x16, 1, 0x20),
  (0x118a0, 0x20, 1, 0x20), (0x16e40, 0x20, 1, 0x20), (0x1e900, 0x22, 1, 0x22)]

/-- Groups of three or more characters that differ only in case. -/
def foldGroups : List (List Nat) := [
  [0x4b, 0x6b, 0x212a], [0x53, 0x73, 0x17f], [0xb5, 0x39c, 0x3bc], [0xc5, 0xe5, 0x212b],
  [0x1c4, 0x1c5, 0x1c6], [0x1c7, 0x1c8, 0x1c9], [0x1ca, 0x1cb, 0x1cc], [0x1f1, 0x1f2, 0x1f3],
  [0x345, 0x399, 0x3b9, 0x1fbe], [0x392, 0x3b2, 0x3d0], [0x395, 0x3b5, 0x3f5],
  [0x398, 0x3b8, 0x3d1, 0x3f4], [0x39a, 0x3ba, 0x3f0], [0x3a0, 0x3c0, 0x3d6],
  [0x3a1, 0x3c1, 0x3f1], [0x3a3, 0x3c2, 0x3c3], [0x3a6, 0x3c6, 0x3d5], [0x3a9, 0x3c9, 0x2126],
  [0x412, 0x432, 0x1c80], [0x414, 0x434, 0x1c81], [0x41e, 0x43e, 0x1c82], [0x421, 0x441, 0x1c83],
  [0x422, 0x442, 0x1c84, 0x1c85], [0x42a, 0x44a, 0x1c86], [0x462, 0x463, 0x1c87],
  [0x1c88, 0xa64a, 0xa64b], [0x1e60, 0x1e61, 0x1e9b]]

end FixGrader.Text

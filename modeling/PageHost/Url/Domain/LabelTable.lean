/-!
# Table of the label rules

The properties of characters that the rules for a label ask about, as spans: the
gap after the span before and the length less one.
-/

namespace PageHost.Url.Domain

/-- Marks, which cannot start a label. -/
def marksRows : List (List Nat) := [
  [0x300, 0x6f, 0x114, 0x6, 0x108, 0x2c, 0x2, 0x0, 0x2, 0x1, 0x2, 0x1, 0x2, 0x0, 0x49, 0xa, 0x31],
  [0x14, 0x11, 0x0, 0x66, 0x6, 0x3, 0x5, 0x3, 0x1, 0x2, 0x3, 0x24, 0x0, 0x1f, 0x1a, 0x5c, 0xa],
  [0x3b, 0x8, 0xa, 0x0, 0x19, 0x3, 0x2, 0x8, 0x2, 0x2, 0x2, 0x4, 0x2c, 0x2, 0x3c, 0x8, 0x2b, 0x39],
  [0x37, 0x2, 0x2, 0x11, 0x2, 0x6, 0xb, 0x1, 0x1e, 0x2, 0x39, 0x0, 0x2, 0xf, 0xa, 0x0, 0xb, 0x1],
  [0x1b, 0x5, 0x39, 0x15, 0x1f, 0x1, 0x4, 0x0, 0xc, 0x2, 0x39, 0x0, 0x2, 0xf, 0x15, 0x1, 0x17, 0x9],
  [0x39, 0x0, 0x2, 0x19, 0xb, 0x1, 0x1f, 0x0, 0x3c, 0xf, 0xa, 0x0, 0x29, 0x4, 0x38, 0x0, 0x2, 0x18],
  [0xc, 0x1, 0x1e, 0x2, 0x39, 0x0, 0x2, 0x18, 0xc, 0x1, 0x10, 0x10, 0x38, 0x1, 0x2, 0xf, 0xa, 0x0],
  [0xb, 0x1, 0x1e, 0x2, 0x47, 0x15, 0x13, 0x1, 0x3e, 0x0, 0x3, 0x6, 0xd, 0x7, 0x63, 0x0, 0x3, 0x8],
  [0xc, 0x6, 0x4a, 0x1, 0x1c, 0x0, 0x2, 0x0, 0x2, 0x0, 0x5, 0x1, 0x32, 0x13, 0x2, 0x1, 0x6, 0x2f],
  [0xa, 0x0, 0x65, 0x13, 0x18, 0x3, 0x5, 0x2, 0x2, 0x2, 0x3, 0x6, 0x4, 0x3, 0xe, 0xb, 0x2, 0x0],
  [0xb, 0x3, 0x2c0, 0x2, 0x3b3, 0x3, 0x1d, 0x2, 0x1e, 0x1, 0x1f, 0x1, 0x43, 0x1d, 0xa, 0x0, 0xa8],
  [0x1, 0x23, 0x0, 0x77, 0x1b, 0xdc, 0x4, 0x3a, 0x2a, 0x31, 0x54, 0x30, 0x10, 0x27, 0x8, 0xd, 0x2],
  [0x1f, 0xc, 0x39, 0xd, 0x31, 0x13, 0x99, 0x2, 0x2, 0x14, 0x5, 0x0, 0x7, 0x0, 0x3, 0x2, 0xc7],
  [0x3f, 0x2d1, 0x20, 0xbff, 0x2, 0x8e, 0x0, 0x61, 0x1f, 0x22b, 0x5, 0x6a, 0x1, 0x75d5, 0x3, 0x2],
  [0x9, 0x21, 0x1, 0x51, 0x1, 0x111, 0x0, 0x4, 0x0, 0x5, 0x0, 0x18, 0x4, 0x5, 0x0, 0x54, 0x1, 0x33],
  [0x11, 0x1b, 0x11, 0xe, 0x0, 0x27, 0x7, 0x1a, 0xc, 0x2d, 0x3, 0x30, 0xd, 0x25, 0x0, 0x44, 0xd],
  [0xd, 0x0, 0x9, 0x1, 0x2e, 0x2, 0x33, 0x0, 0x2, 0x2, 0x3, 0x1, 0x6, 0x1, 0x2, 0x0, 0x2a, 0x4],
  [0x6, 0x1, 0xed, 0x7, 0x2, 0x1, 0x4f31, 0x0, 0x302, 0xf, 0x3ce, 0x0, 0xe3, 0x0, 0x96, 0x4, 0x687],
  [0xe, 0x29, 0x7, 0xa6, 0x1, 0x23e, 0x3, 0x42, 0x4, 0x13e, 0x1, 0x4e, 0x5, 0x47, 0xa, 0x32, 0x3],
  [0x7b, 0x2, 0x36, 0xe, 0x2a, 0x0, 0x3, 0x1, 0xb, 0x3, 0x2e, 0xa, 0x8, 0x0, 0x3e, 0x2, 0x25, 0xd],
  [0x11, 0x1, 0x2d, 0x0, 0xd, 0x2, 0x31, 0xd, 0x9, 0x3, 0x2, 0x1, 0x5d, 0xb, 0x7, 0x0, 0x3, 0x0],
  [0x9e, 0xb, 0x16, 0x3, 0x38, 0x1, 0x2, 0xf, 0xa, 0x0, 0xb, 0x12, 0x44, 0x18, 0x2, 0x0, 0xf, 0x1],
  [0x53, 0x11, 0x18, 0x0, 0x52, 0x13, 0xec, 0x11, 0x1c, 0x1, 0x53, 0x10, 0x6b, 0xc, 0x66, 0xe],
  [0x101, 0xe, 0xf6, 0xe, 0x2, 0x0, 0x2, 0x1, 0x8e, 0xf, 0x4, 0x0, 0x1d, 0x9, 0x29, 0x6, 0x2, 0x3],
  [0x9, 0x0, 0xa, 0xa, 0x2f, 0xf, 0xc7, 0x7, 0xc8, 0x10, 0x53, 0x24, 0x7b, 0x14, 0x2, 0x0, 0x43],
  [0xd, 0x15c, 0x3, 0xa, 0x1, 0x2, 0x0, 0x31, 0xe, 0x18, 0x0, 0x14e6, 0x0, 0x7, 0xe, 0x2cc9, 0x11],
  [0x9c1, 0x4, 0x3c, 0x6, 0x419, 0x0, 0x2, 0x41, 0x52, 0xd, 0x4cac, 0x1, 0x1262, 0x46, 0x21f, 0x4],
  [0x4, 0x15, 0x3, 0x6, 0x1f, 0x3, 0x95, 0x2, 0x7bc, 0x36, 0x5, 0x31, 0x9, 0x0, 0xf, 0x0, 0x17],
  [0x14, 0x551, 0x8f, 0xa1, 0x6, 0x178, 0x0, 0x3e, 0x3, 0x1fd, 0x3, 0xff, 0x1, 0xf4, 0x0, 0x3, 0x0],
  [0x8, 0x1, 0x6, 0x0, 0x1db, 0x6, 0x6e, 0x6]]

/-- Letters that join with the letter after them. -/
def joinsLeftRows : List (List Nat) := [
  [0x620, 0x0, 0x6, 0x0, 0x2, 0x0, 0x2, 0x4, 0x5, 0xc, 0x2, 0x6, 0x2, 0x1, 0x24, 0x1, 0xa, 0xe],
  [0x13, 0x25, 0x2, 0x1, 0xa, 0x0, 0x2, 0x0, 0x2, 0x1, 0x29, 0x2, 0x3, 0x0, 0x13, 0x2, 0x6, 0x3],
  [0x2, 0x8, 0x2, 0x0, 0x2, 0x0, 0x2, 0x1, 0x20, 0xa, 0x4, 0xe, 0x3, 0x3, 0x2, 0x0, 0x3, 0x2, 0x3],
  [0x5, 0x4b, 0x20, 0x57, 0x4, 0x3, 0x0, 0x2, 0x9, 0x2, 0x0, 0xb, 0x0, 0x2, 0x3, 0x3, 0x0, 0x1e],
  [0x0, 0x3, 0x4, 0x2, 0x0, 0x11, 0x9, 0x6, 0x1, 0x3, 0x5, 0x2, 0xe, 0xf3f, 0x0, 0x19, 0x58, 0xf],
  [0x21, 0x2, 0x0, 0x8f96, 0x32, 0x624e, 0x4, 0x9, 0x0, 0x6, 0x9, 0x2, 0x2, 0xb, 0x3, 0x92, 0x0],
  [0x2, 0x0, 0x4, 0x2, 0x2, 0x1, 0x2, 0x0, 0x3, 0x0, 0x1d, 0x1, 0x152, 0x21, 0x2, 0x0, 0x1a0, 0x1],
  [0x2, 0x1, 0x69, 0x2, 0x2, 0x10, 0xd, 0x2, 0x1d, 0x3, 0x3, 0xb, 0x2f, 0x0, 0x2, 0x1, 0x5, 0x0],
  [0x3, 0x1, 0x2, 0x1, 0x2, 0x0, 0x3, 0x0, 0x6, 0x1, 0xd957, 0x21]]

/-- Letters that join with the letter before them. -/
def joinsRightRows : List (List Nat) := [
  [0x620, 0x0, 0x2, 0x1d, 0x2, 0x9, 0x24, 0x1, 0x2, 0x2, 0x6, 0x5a, 0x2, 0x0, 0x19, 0x1, 0xb, 0x2],
  [0x3, 0x0, 0x11, 0x0, 0x2, 0x1d, 0x1e, 0x32, 0x4b, 0x20, 0x56, 0x18, 0x8, 0x0, 0x2, 0x3, 0x2],
  [0x1b, 0x4, 0x0, 0x3, 0x6, 0x11, 0xc, 0x2, 0x1a, 0xf3f, 0x0, 0x19, 0x58, 0xf, 0x21, 0x2, 0x0],
  [0x8f96, 0x31, 0x624f, 0x5, 0x2, 0x0, 0x2, 0x1, 0x4, 0x8, 0x2, 0x9, 0x3, 0x0, 0x7, 0x4, 0x91],
  [0x11, 0x18, 0x5, 0x153, 0x22, 0x19f, 0x2, 0x2, 0x1, 0x69, 0x14, 0xd, 0x3, 0x1c, 0x11, 0x2f, 0x0],
  [0x2, 0x4, 0x2, 0x7, 0x2, 0x3, 0x5, 0x1, 0xd958, 0x21]]

/-- Characters through which letters join. -/
def transparentRows : List (List Nat) := [
  [0x300, 0x6f, 0x114, 0x6, 0x108, 0x2c, 0x2, 0x0, 0x2, 0x1, 0x2, 0x1, 0x2, 0x0, 0x49, 0xa, 0x31],
  [0x14, 0x11, 0x0, 0x66, 0x6, 0x3, 0x5, 0x3, 0x1, 0x2, 0x3, 0x24, 0x0, 0x1f, 0x1a, 0x5c, 0xa],
  [0x3b, 0x8, 0xa, 0x0, 0x19, 0x3, 0x2, 0x8, 0x2, 0x2, 0x2, 0x4, 0x2c, 0x2, 0x3c, 0x8, 0x2b, 0x38],
  [0x38, 0x0, 0x2, 0x0, 0x5, 0x7, 0x5, 0x0, 0x4, 0x6, 0xb, 0x1, 0x1e, 0x0, 0x3b, 0x0, 0x5, 0x3],
  [0x9, 0x0, 0x15, 0x1, 0x1b, 0x4, 0x3a, 0x0, 0x5, 0x10, 0x1f, 0x1, 0x4, 0x0, 0xc, 0x1, 0x3a, 0x0],
  [0x5, 0x7, 0x5, 0x0, 0x15, 0x1, 0x17, 0x7, 0x3b, 0x0, 0x3, 0x0, 0x2, 0x3, 0x9, 0x9, 0xc, 0x1],
  [0x1f, 0x0, 0x3e, 0x0, 0xd, 0x0, 0x33, 0x0, 0x4, 0x0, 0x38, 0x0, 0x2, 0x2, 0x6, 0x10, 0xc, 0x1],
  [0x1e, 0x0, 0x3b, 0x0, 0x3, 0x0, 0x7, 0x0, 0x6, 0x1, 0x15, 0x1, 0x1d, 0x1, 0x3a, 0x1, 0x5, 0x3],
  [0x9, 0x0, 0x15, 0x1, 0x1e, 0x0, 0x49, 0x0, 0x8, 0x4, 0x5b, 0x0, 0x3, 0x6, 0xd, 0x7, 0x63, 0x0],
  [0x3, 0x8, 0xc, 0x6, 0x4a, 0x1, 0x1c, 0x0, 0x2, 0x0, 0x2, 0x0, 0x38, 0xd, 0x2, 0x4, 0x2, 0x1],
  [0x6, 0x2f, 0xa, 0x0, 0x67, 0x3, 0x2, 0x5, 0x2, 0x1, 0x3, 0x1, 0x1a, 0x1, 0x5, 0x2, 0x11, 0x3],
  [0xe, 0x0, 0x3, 0x1, 0x7, 0x0, 0x10, 0x0, 0x2c0, 0x2, 0x3b3, 0x2, 0x1e, 0x1, 0x1f, 0x1, 0x1f],
  [0x1, 0x44, 0x6, 0x9, 0x0, 0x3, 0xa, 0xa, 0x0, 0xa8, 0x1, 0x23, 0x0, 0x77, 0x2, 0x5, 0x1, 0xa],
  [0x0, 0x7, 0x2, 0xdc, 0x1, 0x3, 0x0, 0x3b, 0x0, 0x2, 0x8, 0x2, 0x0, 0x3, 0x7, 0x7, 0xc, 0x31],
  [0x53, 0x31, 0x0, 0x2, 0x4, 0x2, 0x0, 0x6, 0x0, 0x29, 0x8, 0xd, 0x1, 0x21, 0x3, 0x3, 0x1, 0x2],
  [0x2, 0x39, 0x0, 0x2, 0x1, 0x4, 0x0, 0x2, 0x2, 0x3b, 0x7, 0x3, 0x1, 0x99, 0x2, 0x2, 0xc, 0x2],
  [0x6, 0x5, 0x0, 0x7, 0x0, 0x4, 0x1, 0xc7, 0x3f, 0x2d1, 0x20, 0xbff, 0x2, 0x8e, 0x0, 0x61, 0x1f],
  [0x22b, 0x3, 0x6c, 0x1, 0x75d5, 0x3, 0x2, 0x9, 0x21, 0x1, 0x51, 0x1, 0x111, 0x0, 0x4, 0x0, 0x5],
  [0x0, 0x1a, 0x1, 0x6, 0x0, 0x98, 0x1, 0x1b, 0x11, 0xe, 0x0, 0x27, 0x7, 0x1a, 0xa, 0x2f, 0x2],
  [0x31, 0x0, 0x3, 0x3, 0x3, 0x1, 0x28, 0x0, 0x44, 0x5, 0x3, 0x1, 0x3, 0x1, 0xd, 0x0, 0x9, 0x0],
  [0x30, 0x0, 0x34, 0x0, 0x2, 0x2, 0x3, 0x1, 0x6, 0x1, 0x2, 0x0, 0x2b, 0x1, 0x9, 0x0, 0xef, 0x0],
  [0x3, 0x0, 0x5, 0x0, 0x4f31, 0x0, 0x302, 0xf, 0x3ce, 0x0, 0xe3, 0x0, 0x96, 0x4, 0x687, 0xe, 0x29],
  [0x7, 0xa6, 0x1, 0x23e, 0x3, 0x42, 0x4, 0x13e, 0x1, 0x4e, 0x5, 0x47, 0xa, 0x32, 0x3, 0x7c, 0x0],
  [0x37, 0xe, 0x2a, 0x0, 0x3, 0x1, 0xb, 0x2, 0x32, 0x3, 0x3, 0x1, 0x8, 0x0, 0x3e, 0x2, 0x25, 0x4],
  [0x2, 0x7, 0x3f, 0x0, 0xd, 0x1, 0x35, 0x8, 0xb, 0x3, 0x3, 0x0, 0x60, 0x2, 0x3, 0x0, 0x2, 0x1],
  [0x7, 0x0, 0x3, 0x0, 0x9e, 0x0, 0x4, 0x7, 0x16, 0x1, 0x3a, 0x1, 0x4, 0x0, 0x26, 0xe, 0x47, 0x5],
  [0xe, 0x0, 0x2, 0x0, 0x2, 0x0, 0xf, 0x1, 0x56, 0x7, 0x3, 0x2, 0x2, 0x0, 0x18, 0x0, 0x55, 0x5],
  [0x2, 0x0, 0x5, 0x1, 0x2, 0x1, 0xef, 0x3, 0x7, 0x1, 0x2, 0x1, 0x1c, 0x1, 0x56, 0x7, 0x3, 0x0],
  [0x2, 0x1, 0x6b, 0x0, 0x2, 0x0, 0x3, 0x5, 0x2, 0x0, 0x66, 0x0, 0x2, 0x0, 0x3, 0x3, 0x2, 0x4],
  [0x104, 0x8, 0x2, 0x1, 0x101, 0x1, 0x2, 0x0, 0x5, 0x0, 0x91, 0x7, 0x5, 0x0, 0x21, 0x9, 0x29, 0x5],
  [0x3, 0x3, 0x9, 0x0, 0xa, 0x5, 0x3, 0x2, 0x2f, 0xc, 0x2, 0x1, 0xc7, 0x0, 0x2, 0x2, 0x2, 0x0],
  [0xca, 0xd, 0x2, 0x0, 0x53, 0x15, 0x3, 0x6, 0x2, 0x1, 0x2, 0x1, 0x7b, 0x14, 0x2, 0x0, 0x49, 0x1],
  [0x4, 0x0, 0x2, 0x0, 0x15c, 0x1, 0xc, 0x1, 0x35, 0x4, 0x6, 0x0, 0x2, 0x0, 0x18, 0x0, 0x14e6, 0x0],
  [0x7, 0xe, 0x2cc9, 0xb, 0x4, 0x2, 0x9c1, 0x4, 0x3c, 0x6, 0x419, 0x0, 0x40, 0x3, 0x52, 0x0],
  [0x4cb9, 0x1, 0x1262, 0x46, 0x221, 0x2, 0x12, 0x7, 0x3, 0x6, 0x1f, 0x3, 0x95, 0x2, 0x7bc, 0x36],
  [0x5, 0x31, 0x9, 0x0, 0xf, 0x0, 0x17, 0x14, 0x551, 0x8f, 0xa1, 0x6, 0x178, 0x0, 0x3e, 0x3, 0x1fd],
  [0x3, 0xff, 0x1, 0xf4, 0x0, 0x3, 0x0, 0x8, 0x1, 0x6, 0x0, 0x1db, 0x6, 0x6e, 0x7]]

/-- Letters written from right to left. -/
def rightToLeftRows : List (List Nat) := [
  [0x5be, 0x0, 0x2, 0x0, 0x3, 0x0, 0x3, 0x0, 0xa, 0x24, 0x14, 0x0, 0x3, 0x0, 0x2, 0x0, 0xe, 0x2f],
  [0x23, 0x2, 0x2, 0x64, 0x10, 0x1, 0x8, 0x1, 0xb, 0x16, 0x2, 0x1d, 0x1e, 0x58, 0xc, 0x39, 0xa],
  [0x1, 0x5, 0x0, 0x4, 0x17, 0x5, 0x0, 0xa, 0x0, 0x4, 0x0, 0x8, 0x28, 0x6, 0x39, 0x9, 0x29, 0xf2e9],
  [0x20, 0x1be, 0x3e, 0xa5, 0x0, 0x98d, 0x11b, 0x5, 0xe0, 0x10, 0x25, 0xb, 0xa4, 0x7, 0x4a, 0xb],
  [0x1e3, 0x1d, 0x4f, 0xf1, 0x29, 0x4, 0x4f, 0x4, 0x45, 0xc, 0x30, 0x5, 0x70, 0xd80a, 0xcf, 0x53],
  [0x21, 0x8, 0x3f2]]

/-- Numbers that keep the direction of Arabic. -/
def arabicNumbersRows : List (List Nat) := [
  [0x660, 0x9, 0x2, 0x1, 0x106c4, 0x9, 0x127, 0x1e]]

/-- Other numbers. -/
def numbersRows : List (List Nat) := [
  [0x6f0, 0x9, 0xfbe8, 0x1a]]

/-- Marks that take the direction of what they stand on. -/
def attachedRows : List (List Nat) := [
  [0x300, 0x6f, 0x114, 0x6, 0x108, 0x2c, 0x2, 0x0, 0x2, 0x1, 0x2, 0x1, 0x2, 0x0, 0x49, 0xa, 0x31],
  [0x14, 0x11, 0x0, 0x66, 0x6, 0x3, 0x5, 0x3, 0x1, 0x2, 0x3, 0x24, 0x0, 0x1f, 0x1a, 0x5c, 0xa],
  [0x3b, 0x8, 0xa, 0x0, 0x19, 0x3, 0x2, 0x8, 0x2, 0x2, 0x2, 0x4, 0x2c, 0x2, 0x3d, 0x7, 0x2b, 0x38],
  [0x38, 0x0, 0x2, 0x0, 0x5, 0x7, 0x5, 0x0, 0x4, 0x6, 0xb, 0x1, 0x1e, 0x0, 0x3b, 0x0, 0x5, 0x3],
  [0x9, 0x0, 0x15, 0x1, 0x1b, 0x4, 0x3a, 0x0, 0x5, 0x10, 0x1f, 0x1, 0x4, 0x0, 0xc, 0x1, 0x3a, 0x0],
  [0x5, 0x7, 0x5, 0x0, 0x15, 0x1, 0x17, 0x7, 0x3b, 0x0, 0x3, 0x0, 0x2, 0x3, 0x9, 0x9, 0xc, 0x1],
  [0x1f, 0x0, 0x3e, 0x0, 0xd, 0x0, 0x33, 0x0, 0x4, 0x0, 0x38, 0x0, 0x2, 0x2, 0x6, 0x10, 0xc, 0x1],
  [0x1e, 0x0, 0x3b, 0x0, 0x10, 0x1, 0x15, 0x1, 0x1d, 0x1, 0x3a, 0x1, 0x5, 0x3, 0x9, 0x0, 0x15, 0x1],
  [0x1e, 0x0, 0x49, 0x0, 0x8, 0x4, 0x5b, 0x0, 0x3, 0x6, 0xd, 0x7, 0x63, 0x0, 0x3, 0x8, 0xc, 0x6],
  [0x4a, 0x1, 0x1c, 0x0, 0x2, 0x0, 0x2, 0x0, 0x38, 0xd, 0x2, 0x4, 0x2, 0x1, 0x6, 0x2f, 0xa, 0x0],
  [0x67, 0x3, 0x2, 0x5, 0x2, 0x1, 0x3, 0x1, 0x1a, 0x1, 0x5, 0x2, 0x11, 0x3, 0xe, 0x0, 0x3, 0x1],
  [0x7, 0x0, 0x10, 0x0, 0x2c0, 0x2, 0x3b3, 0x2, 0x1e, 0x1, 0x1f, 0x1, 0x1f, 0x1, 0x44, 0x6, 0x9],
  [0x0, 0x3, 0xa, 0xa, 0x0, 0xa8, 0x1, 0x23, 0x0, 0x77, 0x2, 0x5, 0x1, 0xa, 0x0, 0x7, 0x2, 0xdc],
  [0x1, 0x3, 0x0, 0x3b, 0x0, 0x2, 0x8, 0x2, 0x0, 0x3, 0x7, 0x7, 0xc, 0x31, 0x1e, 0x32, 0x3, 0x31],
  [0x0, 0x2, 0x4, 0x2, 0x0, 0x6, 0x0, 0x29, 0x8, 0xd, 0x1, 0x21, 0x3, 0x3, 0x1, 0x2, 0x2, 0x39],
  [0x0, 0x2, 0x1, 0x4, 0x0, 0x2, 0x2, 0x3b, 0x7, 0x3, 0x1, 0x99, 0x2, 0x2, 0xc, 0x2, 0x6, 0x5, 0x0],
  [0x7, 0x0, 0x4, 0x1, 0xc7, 0x3f, 0x2d1, 0x20, 0xbff, 0x2, 0x8e, 0x0, 0x61, 0x1f, 0x22b, 0x3],
  [0x6c, 0x1, 0x75d5, 0x3, 0x2, 0x9, 0x21, 0x1, 0x51, 0x1, 0x111, 0x0, 0x4, 0x0, 0x5, 0x0, 0x1a],
  [0x1, 0x6, 0x0, 0x98, 0x1, 0x1b, 0x11, 0xe, 0x0, 0x27, 0x7, 0x1a, 0xa, 0x2f, 0x2, 0x31, 0x0, 0x3],
  [0x3, 0x3, 0x1, 0x28, 0x0, 0x44, 0x5, 0x3, 0x1, 0x3, 0x1, 0xd, 0x0, 0x9, 0x0, 0x30, 0x0, 0x34],
  [0x0, 0x2, 0x2, 0x3, 0x1, 0x6, 0x1, 0x2, 0x0, 0x2b, 0x1, 0x9, 0x0, 0xef, 0x0, 0x3, 0x0, 0x5, 0x0],
  [0x4f31, 0x0, 0x302, 0xf, 0x3ce, 0x0, 0xe3, 0x0, 0x96, 0x4, 0x687, 0xe, 0x29, 0x7, 0xa6, 0x1],
  [0x23e, 0x3, 0x184, 0x1, 0x51, 0x2, 0x47, 0xa, 0x32, 0x3, 0x7c, 0x0, 0x37, 0xe, 0x2a, 0x0, 0x3],
  [0x1, 0xb, 0x2, 0x32, 0x3, 0x3, 0x1, 0x8, 0x0, 0x3e, 0x2, 0x25, 0x4, 0x2, 0x7, 0x3f, 0x0, 0xd],
  [0x1, 0x35, 0x8, 0xb, 0x3, 0x3, 0x0, 0x60, 0x2, 0x3, 0x0, 0x2, 0x1, 0x7, 0x0, 0x3, 0x0, 0x9e],
  [0x0, 0x4, 0x7, 0x16, 0x1, 0x3a, 0x1, 0x4, 0x0, 0x26, 0xe, 0xc4, 0x7, 0x3, 0x2, 0x2, 0x0, 0x18],
  [0x0, 0x55, 0x5, 0x2, 0x0, 0x5, 0x1, 0x2, 0x1, 0xef, 0x3, 0x7, 0x1, 0x2, 0x1, 0x1c, 0x1, 0x56],
  [0x7, 0x3, 0x0, 0x2, 0x1, 0x6b, 0x0, 0x2, 0x0, 0x3, 0x5, 0x2, 0x0, 0x66, 0x2, 0x3, 0x3, 0x2, 0x4],
  [0x104, 0x8, 0x2, 0x1, 0x101, 0x1, 0x2, 0x0, 0x5, 0x0, 0x91, 0x7, 0x5, 0x0, 0x21, 0x5, 0x3, 0x1],
  [0x29, 0x5, 0x3, 0x3, 0x9, 0x0, 0xa, 0x5, 0x3, 0x2, 0x2f, 0xc, 0x2, 0x1, 0x197, 0xd, 0x55, 0x15],
  [0x3, 0x6, 0x2, 0x1, 0x2, 0x1, 0x7b, 0x14, 0x2, 0x0, 0x49, 0x1, 0x4, 0x0, 0x2, 0x0, 0x15c, 0x1],
  [0xc, 0x1, 0x35, 0x4, 0x6, 0x0, 0x2, 0x0, 0x14fe, 0x0, 0x7, 0xe, 0x369b, 0x4, 0x3c, 0x6, 0x419],
  [0x0, 0x40, 0x3, 0x52, 0x0, 0x4cb9, 0x1, 0x1262, 0x46, 0x221, 0x2, 0x12, 0x7, 0x3, 0x6, 0x1f],
  [0x3, 0x95, 0x2, 0x7bc, 0x36, 0x5, 0x31, 0x9, 0x0, 0xf, 0x0, 0x17, 0x14, 0x551, 0x8f, 0xa1, 0x6],
  [0x178, 0x0, 0x3e, 0x3, 0x1fd, 0x3, 0x3e1, 0x6, 0x6e, 0x6]]

/-- Characters without a direction. -/
def neutralRows : List (List Nat) := [
  [0xa1, 0x36, 0x20, 0x0, 0x1c2, 0x1, 0x8, 0xd, 0x3, 0x1b, 0x2, 0x10, 0x76, 0x0, 0x81, 0x0, 0x194],
  [0x5, 0x77, 0x1, 0x2, 0x1, 0x2, 0x0, 0x2, 0x1, 0x5b, 0x0, 0x74, 0x0, 0xb, 0x0, 0x10d, 0x3, 0x1f9],
  [0x1, 0x8, 0x0, 0xf6, 0x0, 0x102, 0x7, 0x7e, 0x6, 0x1c1, 0x0, 0xfb, 0x3, 0x453, 0x9, 0x67, 0x0],
  [0x29b, 0x1, 0x13f, 0x0, 0x15, 0x1a, 0x136, 0x5, 0x99, 0x21, 0x60d, 0xb5, 0x43, 0x49, 0x3d],
  [0x1ab, 0x46, 0x19, 0x2, 0x90, 0x1a, 0x26b, 0x2, 0x152, 0x101, 0x295, 0x2, 0x68, 0xe6, 0x5, 0xf],
  [0x6, 0x101, 0x204, 0x4, 0x18, 0x10, 0x0, 0x7, 0x0, 0x6, 0x2, 0x61, 0x0, 0x5b, 0x0, 0xc5, 0x23],
  [0x1bdd, 0x3f, 0x5691, 0x36, 0x147, 0x2, 0x64, 0x0, 0xb, 0x1, 0x81, 0x21, 0x67, 0x0, 0xa0, 0x3],
  [0xd, 0x1, 0x3b, 0x3, 0x2f3, 0x1, 0x51d3, 0x11, 0x80, 0x30, 0x46, 0x1, 0x2bb, 0x0, 0x3f, 0x4c],
  [0x4, 0x10, 0x77f, 0x0, 0x21a, 0x6, 0x513, 0x13, 0x5fb, 0xc, 0x969, 0x1c, 0x4ff1, 0x0, 0x6207],
  [0x58, 0x4, 0x0, 0xbb, 0x56, 0xfa9, 0x0, 0xbf1, 0x23f, 0x3e, 0x2, 0x3e, 0x0, 0xb3, 0x477, 0x5],
  [0x9a, 0x5, 0x136, 0x4f, 0x153, 0xd, 0x28, 0x8, 0x2d, 0x2, 0x6, 0x9, 0xd, 0x5, 0x8, 0x8, 0xda]]

end PageHost.Url.Domain

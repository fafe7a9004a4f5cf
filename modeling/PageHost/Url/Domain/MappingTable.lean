/-!
# Table of the mapping

How characters outside ASCII are prepared for a domain name: dropped, refused or
replaced. Characters that no table names are kept. Spans are written as the gap
after the span before and the length less one, other entries as the distance from
the entry before and the entry.
-/

namespace PageHost.Url.Domain

/-- Spans of characters that no domain name has. -/
def refusedRows : List (List Nat) := [
  [0x80, 0x1f, 0x2d9, 0x1, 0x7, 0xd, 0x15, 0x0, 0x18e, 0x28, 0x33, 0x1, 0x4, 0x0, 0x38, 0x7, 0x1c],
  [0x3, 0x7, 0x10, 0x17, 0x0, 0xc1, 0x0, 0x31, 0x1, 0x3c, 0x1, 0x66, 0xd, 0x3c, 0x1, 0x32, 0x1],
  [0x10, 0x0, 0x1d, 0x1, 0x2, 0x0, 0xc, 0x4, 0x21, 0x6, 0x4c, 0x0, 0xa2, 0x0, 0x9, 0x1, 0x3, 0x1],
  [0x17, 0x0, 0x8, 0x0, 0x2, 0x2, 0x5, 0x1, 0xa, 0x1, 0x3, 0x1, 0x5, 0x7, 0x2, 0x6, 0x6, 0x1, 0x1a],
  [0x1, 0x4, 0x0, 0x7, 0x3, 0x3, 0x1, 0x17, 0x0, 0x8, 0x0, 0x3, 0x0, 0x3, 0x0, 0x3, 0x1, 0x2, 0x0],
  [0x6, 0x3, 0x3, 0x1, 0x4, 0x2, 0x2, 0x6, 0x5, 0x8, 0x12, 0x9, 0x4, 0x0, 0xa, 0x0, 0x4, 0x0, 0x17],
  [0x0, 0x8, 0x0, 0x3, 0x0, 0x6, 0x1, 0xb, 0x0, 0x4, 0x0, 0x4, 0x1, 0x2, 0xe, 0x5, 0x1, 0xd, 0x6],
  [0x8, 0x0, 0x4, 0x0, 0x9, 0x1, 0x3, 0x1, 0x17, 0x0, 0x8, 0x0, 0x3, 0x0, 0x6, 0x1, 0xa, 0x1, 0x3],
  [0x1, 0x4, 0x6, 0x4, 0x6, 0x6, 0x1, 0x13, 0x9, 0x3, 0x0, 0x7, 0x2, 0x4, 0x0, 0x5, 0x2, 0x3, 0x0],
  [0x2, 0x0, 0x3, 0x2, 0x3, 0x2, 0x4, 0x2, 0xd, 0x3, 0x6, 0x2, 0x4, 0x0, 0x5, 0x1, 0x2, 0x5, 0x2],
  [0xd, 0x16, 0x4, 0xe, 0x0, 0x4, 0x0, 0x18, 0x0, 0x11, 0x1, 0xa, 0x0, 0x4, 0x0, 0x5, 0x6, 0x3],
  [0x0, 0x4, 0x0, 0x3, 0x1, 0x5, 0x1, 0xb, 0x6, 0x17, 0x0, 0x4, 0x0, 0x18, 0x0, 0xb, 0x0, 0x6, 0x1],
  [0xa, 0x0, 0x4, 0x0, 0x5, 0x6, 0x3, 0x4, 0x4, 0x0, 0x5, 0x1, 0xb, 0x0, 0x4, 0xb, 0xe, 0x0, 0x4],
  [0x0, 0x34, 0x0, 0x4, 0x0, 0x7, 0x3, 0x11, 0x1, 0x1b, 0x0, 0x4, 0x0, 0x13, 0x2, 0x19, 0x0, 0xa],
  [0x0, 0x2, 0x1, 0x8, 0x2, 0x2, 0x3, 0x7, 0x0, 0x2, 0x0, 0x9, 0x5, 0xb, 0x1, 0x4, 0xb, 0x3b, 0x3],
  [0x1e, 0x24, 0x3, 0x0, 0x2, 0x0, 0x6, 0x0, 0x19, 0x0, 0x2, 0x0, 0x18, 0x1, 0x6, 0x0, 0x2, 0x0],
  [0x8, 0x0, 0xb, 0x1, 0x5, 0x1f, 0x49, 0x0, 0x25, 0x3, 0x28, 0x0, 0x25, 0x0, 0x10, 0x0, 0xe, 0x24],
  [0xc7, 0x9, 0x17a, 0x0, 0x5, 0x1, 0x8, 0x0, 0x2, 0x0, 0x5, 0x1, 0x2a, 0x0, 0x5, 0x1, 0x22, 0x0],
  [0x5, 0x1, 0x8, 0x0, 0x2, 0x0, 0x5, 0x1, 0x10, 0x0, 0x3a, 0x0, 0x5, 0x1, 0x44, 0x1, 0x21, 0x2],
  [0x1b, 0x5, 0x57, 0x9, 0x281, 0x0, 0x1d, 0x2, 0x5a, 0x6, 0x17, 0x8, 0x19, 0x8, 0x15, 0xb, 0xe],
  [0x0, 0x4, 0x0, 0x3, 0xb, 0x5f, 0x1, 0xb, 0x5, 0xb, 0x5, 0x1b, 0x5, 0x5a, 0x6, 0x2c, 0x4, 0x47],
  [0x9, 0x20, 0x0, 0xd, 0x3, 0xd, 0x3, 0x2, 0x2, 0x2b, 0x1, 0x6, 0xa, 0x2d, 0x3, 0x1b, 0x5, 0xc],
  [0x2, 0x3f, 0x1, 0x42, 0x0, 0x1e, 0x1, 0xc, 0x5, 0xb, 0x5, 0xf, 0x1, 0x2f, 0x1, 0xd, 0x13, 0x4e],
  [0x0, 0xa7, 0x7, 0x3d, 0x2, 0x10, 0x2, 0x3f, 0x31, 0xc, 0x7, 0x2c, 0x4, 0x217, 0x9, 0x27, 0x9],
  [0x9, 0x6, 0x20, 0x1, 0x36, 0x0, 0x10, 0x0, 0xf, 0x1, 0x7, 0x0, 0x14, 0x5, 0xa, 0x0, 0xf, 0x1],
  [0x15, 0x2, 0x2, 0x6, 0x37, 0x4, 0x9, 0x2d, 0x23, 0xd, 0x22, 0xe, 0x8d, 0x3, 0x29b, 0x15, 0xc],
  [0x50, 0x6d9, 0x1, 0x17f, 0x4, 0x2e, 0x0, 0x2, 0x4, 0x2, 0x1, 0x39, 0x6, 0x3, 0xd, 0x19, 0x8],
  [0x8, 0x0, 0x8, 0x0, 0x8, 0x0, 0x8, 0x0, 0x8, 0x0, 0x8, 0x0, 0x8, 0x0, 0x8, 0x0, 0x7f, 0x21],
  [0x1b, 0x0, 0x5a, 0x10b, 0x41, 0x0, 0x57, 0x1, 0x68, 0x4, 0x2c, 0x0, 0x5f, 0x0, 0x57, 0x9, 0x30],
  [0x0, 0x1a3, 0x16, 0x70b5, 0x2, 0x38, 0x8, 0x15d, 0x13, 0xb9, 0x7, 0xde, 0x13, 0x3d, 0x2, 0xb],
  [0x5, 0x39, 0x7, 0x47, 0x7, 0xd, 0x5, 0x75, 0xa, 0x1f, 0x2, 0x4f, 0x0, 0xc, 0x3, 0x22, 0x0, 0x38],
  [0x8, 0xf, 0x1, 0xb, 0x1, 0x68, 0x17, 0x1d, 0x9, 0x7, 0x1, 0x7, 0x1, 0x7, 0x8, 0x8, 0x0, 0x8],
  [0x0, 0x3d, 0x3, 0x7f, 0x1, 0xb, 0x5, 0x2ba5, 0xb, 0x18, 0x3, 0x32, 0x2103, 0x16f, 0xae, 0x1b],
  [0xe, 0x28b, 0x1f, 0x23, 0xd, 0x11, 0x0, 0x22, 0x1d, 0x6, 0x89, 0x2, 0x0, 0xbf, 0x40, 0xd, 0x0],
  [0x1b, 0x0, 0x14, 0x0, 0x3, 0x0, 0x10, 0x1, 0xf, 0x21, 0x7c, 0x4, 0x4, 0x3, 0x2e, 0x2, 0x59, 0x0],
  [0xe, 0x2, 0x2, 0x2e, 0x2f, 0x81, 0x1e, 0x2, 0x32, 0xe, 0x1d, 0x3, 0x25, 0x8, 0x1f, 0x4, 0x2c],
  [0x4, 0x1f, 0x0, 0x26, 0x3, 0xf, 0x29, 0x9f, 0x1, 0xb, 0x2d, 0x25, 0x3, 0x29, 0x7, 0x35, 0xa],
  [0xd, 0x1b, 0xc, 0x0, 0x10, 0x0, 0x8, 0x0, 0x3, 0x2, 0x35, 0xb, 0x138, 0x8, 0x17, 0x9, 0x9, 0x17],
  [0x7, 0x79, 0x7, 0x1, 0x2, 0x0, 0x2d, 0x0, 0x3, 0x2, 0x2, 0x1, 0x18, 0x0, 0x49, 0x7, 0xa, 0x2f],
  [0x14, 0x0, 0x3, 0x4, 0x22, 0x2, 0x1c, 0x4, 0x1c, 0x25, 0x39, 0x3, 0x15, 0x1, 0x33, 0x0, 0x3],
  [0x4, 0x9, 0x0, 0x4, 0x0, 0x1e, 0x1, 0x4, 0x3, 0xb, 0x6, 0xa, 0x6, 0x41, 0x1f, 0x28, 0x3, 0xd],
  [0x8, 0x37, 0x2, 0x1e, 0x1, 0x1c, 0x4, 0x1b, 0x6, 0x5, 0xb, 0x8, 0x4f, 0x4a, 0x76, 0x34, 0x6],
  [0x2f, 0x7, 0xb, 0x5, 0x27, 0x2, 0x1e, 0x7, 0x3, 0xcf, 0x20, 0x0, 0x2b, 0x0, 0x4, 0x1, 0x3, 0xf],
  [0x7, 0x7, 0xa, 0x20, 0x2f, 0x7, 0x2b, 0x15, 0x1b, 0x25, 0x1d, 0x13, 0x18, 0x8, 0x4f, 0x3, 0x25],
  [0x8, 0x3f, 0x0, 0x6, 0xc, 0x1a, 0x6, 0xb, 0x5, 0x36, 0x0, 0x13, 0x7, 0x28, 0x8, 0x61, 0x0, 0x15],
  [0xa, 0x13, 0x0, 0x30, 0x3d, 0x8, 0x0, 0x2, 0x0, 0x5, 0x0, 0x10, 0x0, 0xc, 0x5, 0x3c, 0x4, 0xb],
  [0x5, 0x5, 0x0, 0x9, 0x1, 0x3, 0x1, 0x17, 0x0, 0x8, 0x0, 0x3, 0x0, 0x6, 0x0, 0xb, 0x1, 0x3, 0x1],
  [0x4, 0x1, 0x2, 0x5, 0x2, 0x4, 0x8, 0x1, 0x8, 0x2, 0x6, 0xa, 0xb, 0x0, 0x2, 0x1, 0x2, 0x0, 0x27],
  [0x0, 0xb, 0x0, 0x2, 0x1, 0x2, 0x0, 0x5, 0x0, 0xb, 0x0, 0x3, 0x7, 0x3, 0x1c, 0x5d, 0x0, 0x6],
  [0x1d, 0x49, 0x7, 0xb, 0xa5, 0x37, 0x1, 0x27, 0x21, 0x46, 0xa, 0xb, 0x5, 0xe, 0x12, 0x3b, 0x5],
  [0xb, 0x5, 0x15, 0x1b, 0x1c, 0x1, 0x10, 0x3, 0x18, 0xb8, 0x3d, 0x63, 0x54, 0xb, 0x9, 0x1, 0x2],
  [0x1, 0x9, 0x0, 0x3, 0x0, 0x1f, 0x0, 0x3, 0x1, 0xd, 0x8, 0xb, 0x45, 0x9, 0x1, 0x2f, 0x1, 0xc],
  [0x1a, 0x49, 0x7, 0x54, 0xc, 0x4a, 0x6, 0xb, 0x55, 0x9, 0x57, 0x23, 0xd, 0xb, 0x5, 0xa, 0x0],
  [0x2e, 0x0, 0xf, 0x9, 0x1e, 0x2, 0x21, 0x1, 0x17, 0x0, 0xf, 0x48, 0x8, 0x0, 0x3, 0x0, 0x2d, 0x2],
  [0x2, 0x0, 0x3, 0x0, 0xa, 0x7, 0xb, 0x5, 0x7, 0x0, 0x3, 0x0, 0x26, 0x0, 0x3, 0x0, 0x7, 0x6, 0xb],
  [0x5, 0x2d, 0x3, 0xb, 0xf5, 0x1a, 0x6, 0x12, 0x0, 0x2a, 0x2, 0x1e, 0x54, 0x2, 0xe, 0x33, 0xc],
  [0x39c, 0x65, 0x70, 0x0, 0x6, 0xa, 0xc5, 0xa4b, 0x64, 0xc, 0x431, 0xf, 0x17, 0x9, 0xf9c, 0x4],
  [0x248, 0x1ab8, 0x3b, 0x6c5, 0x23a, 0x6, 0x20, 0x0, 0xb, 0x3, 0x52, 0x0, 0xb, 0x5, 0x1f, 0x1],
  [0x7, 0x9, 0x47, 0x9, 0xb, 0x0, 0x8, 0x0, 0x16, 0x4, 0x14, 0x1af, 0x3b, 0xc5, 0x5c, 0x1f, 0x1a],
  [0x2b, 0x4c, 0x3, 0x3a, 0x6, 0x12, 0x3f, 0x6, 0xa, 0x8, 0x8, 0x1cd7, 0x28, 0x21, 0x60, 0x74],
  [0x21fc, 0x5, 0x0, 0x8, 0x0, 0x3, 0x0, 0x124, 0xe, 0x2, 0x1c, 0x4, 0x1, 0x2, 0xd, 0x5, 0x7],
  [0x18d, 0x903, 0x6c, 0x4, 0xe, 0x2, 0xa, 0x6, 0xb, 0x1, 0x9, 0xf5b, 0xfe, 0x2, 0x1b5, 0x5, 0x18],
  [0xe, 0x12, 0xe, 0x2f, 0x1, 0x18, 0x8, 0x75, 0x3b, 0xf7, 0x9, 0x28, 0x1, 0xc3, 0x14, 0x47, 0x79],
  [0x15, 0xb, 0x15, 0xb, 0x58, 0x8, 0x1a, 0x454, 0x2bf, 0xe, 0x6, 0x0, 0x10, 0x44f, 0x20, 0x5, 0x7],
  [0xd4, 0x8, 0x0, 0x12, 0x1, 0x8, 0x0, 0x3, 0x0, 0x6, 0x63, 0x2, 0x6f, 0x2e, 0x2, 0xf, 0x1, 0xb],
  [0x3, 0x3, 0x13f, 0x20, 0x10, 0x3b, 0x4, 0x2, 0x1cf, 0x2b, 0xd5, 0x2c, 0x3, 0x2, 0xbf, 0x20, 0x0],
  [0x17, 0x7, 0x3, 0xdf, 0x8, 0x0, 0x5, 0x0, 0x3, 0x0, 0x10, 0x0, 0xc6, 0x1, 0x11, 0x28, 0x4d, 0x3],
  [0xb, 0x3, 0x3, 0x310, 0x45, 0x4b, 0x3e, 0x1b1, 0x3, 0x10d, 0x2d, 0x3, 0x65, 0xb, 0x10, 0x1],
  [0x10, 0x0, 0x10, 0x0, 0x26, 0xa, 0xae, 0x37, 0x1e, 0x5c, 0x7, 0x99, 0x3da, 0x2, 0x12, 0x2, 0xe],
  [0x2, 0xdb, 0x5, 0xd, 0x3, 0x2, 0xe, 0xd, 0x3, 0x39, 0x7, 0xb, 0x5, 0x29, 0x7, 0x1f, 0x1, 0xd],
  [0x3, 0x3, 0xd, 0xa, 0x26, 0x159, 0x7, 0xf, 0x1, 0xe, 0x2, 0xc, 0x2, 0x3a, 0x0, 0x2, 0x3, 0x11],
  [0x1, 0xd, 0x3, 0xb, 0x6, 0x94, 0x0, 0x68, 0x404, 0xa6e1, 0x1f, 0x111f, 0x1, 0x168f, 0x1, 0x1d32],
  [0xe, 0x26f, 0x11a1, 0x134c, 0x4, 0x212b, 0xacc85, 0xf1, 0x2fe0f]]

/-- Spans of characters that are dropped. -/
def droppedRows : List (List Nat) := [
  [0xad, 0x0, 0x2a2, 0x0, 0xe10, 0x1, 0x654, 0x1, 0x56, 0x4, 0x7fc, 0x0, 0x55, 0x4, 0x6, 0x5],
  [0x10f5, 0x0, 0xcc9c, 0xf, 0xf0, 0x0, 0xa1, 0x0, 0xbd00, 0x3, 0x14d0, 0x7, 0xc2f86, 0xef]]

/-- Runs of characters that move by one distance: the first, their number, the step
from one to the next and what the first becomes. -/
def runsRows : List (List Nat) := [
  [0xb2, 0x2, 0x1, 0x32, 0xe, 0x17, 0x1, 0xe0, 0x18, 0x7, 0x1, 0xf8, 0x28, 0x18, 0x2, 0x101, 0x34],
  [0x2, 0x2, 0x135, 0x5, 0x3, 0x2, 0x13a, 0x8, 0x4, 0x2, 0x142, 0x9, 0x17, 0x2, 0x14b, 0x2f, 0x3],
  [0x2, 0x17a, 0x9, 0x2, 0x2, 0x183, 0x7, 0x2, 0x1, 0x256, 0x17, 0x3, 0x2, 0x1a1, 0x11, 0x2, 0x1],
  [0x28a, 0x2, 0x2, 0x2, 0x1b4, 0x1a, 0x8, 0x2, 0x1ce, 0x11, 0x9, 0x2, 0x1df, 0x1a, 0x14, 0x2],
  [0x1f9, 0x2a, 0x9, 0x2, 0x223, 0x24, 0x5, 0x2, 0x247, 0x6a, 0x2, 0x2, 0x68, 0x90, 0x2, 0x1],
  [0x300, 0x30, 0x2, 0x2, 0x371, 0x18, 0x3, 0x1, 0x3ad, 0x6, 0x2, 0x1, 0x3cd, 0x3, 0x11, 0x1],
  [0x3b1, 0x12, 0x9, 0x1, 0x3c3, 0x35, 0xc, 0x2, 0x3d9, 0x25, 0x3, 0x1, 0x37b, 0x3, 0x10, 0x1],
  [0x450, 0x10, 0x20, 0x1, 0x430, 0x50, 0x11, 0x2, 0x461, 0x2a, 0x1b, 0x2, 0x48b, 0x37, 0x7, 0x2],
  [0x4c2, 0xf, 0x30, 0x2, 0x4d1, 0x61, 0x26, 0x1, 0x561, 0xb6f, 0x26, 0x1, 0x2d00, 0x358, 0x6, 0x1],
  [0x13f0, 0x88b, 0x2, 0x1, 0x441, 0xd, 0x2b, 0x1, 0x10d0, 0x2d, 0x3, 0x1, 0x10fd, 0x71, 0x2, 0x2],
  [0x62, 0x3, 0x5, 0x2, 0x65, 0x3, 0x4, 0x2, 0x68, 0xc, 0x2, 0x1, 0x74, 0x4, 0x2, 0x1, 0x250, 0x4],
  [0x2, 0x1, 0x64, 0x3, 0x2, 0x1, 0x25b, 0x5, 0x2, 0x2, 0x6d, 0x4, 0x2, 0x1, 0x1d16, 0x3, 0x2, 0x1],
  [0x74, 0x6, 0x3, 0x1, 0x3b2, 0x3, 0x2, 0x1, 0x3c6, 0x4, 0x2, 0x1, 0x75, 0x2, 0x2, 0x1, 0x3b2],
  [0x3, 0x2, 0x1, 0x3c6, 0x3b, 0x3, 0x1, 0x268, 0xa, 0x4, 0x1, 0x272, 0x5, 0x2, 0x1, 0x282, 0x3],
  [0x2, 0x1, 0x289, 0x3, 0x2, 0x1, 0x28b, 0x3, 0x3, 0x1, 0x290, 0x44, 0x4b, 0x2, 0x1e01, 0xa0],
  [0x30, 0x2, 0x1ea1, 0x68, 0x8, 0x1, 0x1f00, 0x10, 0x6, 0x1, 0x1f10, 0x10, 0x8, 0x1, 0x1f20, 0x10],
  [0x8, 0x1, 0x1f30, 0x10, 0x6, 0x1, 0x1f40, 0x11, 0x4, 0x2, 0x1f51, 0xf, 0x8, 0x1, 0x1f60, 0x50],
  [0x2, 0x1, 0x1fb0, 0x10, 0x2, 0x2, 0x1f72, 0x10, 0x2, 0x1, 0x1fd0, 0x10, 0x2, 0x1, 0x1fe0, 0x11],
  [0x2, 0x2, 0x3cc, 0x7b, 0x6, 0x1, 0x34, 0x9, 0x2, 0x1, 0x28, 0x3, 0xa, 0x1, 0x30, 0xd, 0x2, 0x1],
  [0x28, 0x9, 0x4, 0x1, 0x6b, 0x5, 0x2, 0x1, 0x73, 0x6f, 0x2, 0x1, 0x67, 0x9, 0x2, 0x2, 0x6c, 0x6],
  [0x3, 0x1, 0x70, 0x13, 0x2, 0x1, 0x62, 0x4, 0x2, 0x1, 0x65, 0x5, 0x4, 0x1, 0x5d0, 0x11, 0x2, 0x1],
  [0x64, 0x2, 0x2, 0x1, 0x69, 0x25, 0x2, 0x1, 0x63, 0x10, 0x2, 0x1, 0x63, 0x1ac, 0x2, 0x1, 0x3008],
  [0x137, 0x9, 0x1, 0x31, 0x56, 0x1a, 0x1, 0x61, 0x1a, 0x1a, 0x1, 0x61, 0x730, 0x30, 0x1, 0x2c30],
  [0x67, 0x3, 0x2, 0x2c68, 0x17, 0x2, 0x1, 0x23f, 0x2, 0x32, 0x2, 0x2c81, 0x6b, 0x2, 0x2, 0x2cec],
  [0x34e, 0x2, 0x1, 0x5344, 0xf8, 0x2, 0x1, 0x1100, 0x2, 0x2, 0x2, 0x11aa, 0x4, 0x3, 0x1, 0x1103],
  [0x3, 0x6, 0x1, 0x11b0, 0x7, 0x3, 0x1, 0x1106, 0x4, 0xa, 0x1, 0x1109, 0xa, 0x15, 0x1, 0x1161],
  [0x16, 0x2, 0x1, 0x1114, 0x2, 0x2, 0x1, 0x11c7, 0xa, 0x2, 0x1, 0x111d, 0x3, 0x2, 0x1, 0x1122],
  [0x4, 0x5, 0x1, 0x112b, 0xa, 0x2, 0x1, 0x11f1, 0x2, 0x3, 0x1, 0x1157, 0x3, 0x2, 0x1, 0x1184, 0x3],
  [0x2, 0x1, 0x1191, 0xd7, 0x2, 0x1, 0x1102, 0x2, 0x3, 0x1, 0x1105, 0x4, 0x2, 0x1, 0x110b, 0x2],
  [0x5, 0x1, 0x110e, 0x6b, 0x2, 0x1, 0x30aa, 0x10, 0x6, 0x1, 0x30ca, 0xa, 0x5, 0x1, 0x30de, 0x7],
  [0x6, 0x1, 0x30e8, 0x6, 0x4, 0x1, 0x30ef, 0x7345, 0x17, 0x2, 0xa641, 0x40, 0xe, 0x2, 0xa681],
  [0xa2, 0x7, 0x2, 0xa723, 0x10, 0x1f, 0x2, 0xa733, 0x47, 0x2, 0x2, 0xa77a, 0x5, 0x5, 0x2, 0xa77f],
  [0x12, 0x2, 0x2, 0xa791, 0x6, 0xa, 0x2, 0xa797, 0x1e, 0x8, 0x2, 0xa7b5, 0x13, 0x2, 0x2, 0xa7c8],
  [0x5, 0x8, 0x2, 0xa7cd, 0x3a4, 0x50, 0x1, 0x13a0, 0x4ee2, 0x2, 0x1, 0x798d, 0xd0, 0x2, 0x1],
  [0x5d3, 0x2, 0x3, 0x1, 0x5db, 0x34, 0x2, 0x2, 0x67e, 0x1, 0x2, 0x2, 0x67e, 0x13, 0x2, 0x2, 0x6a4],
  [0x1, 0x2, 0x2, 0x6a4, 0x10, 0x2, 0x1, 0x686, 0x7, 0x2, 0x2, 0x68c, 0x1, 0x2, 0x2, 0x68c, 0x1a],
  [0x2, 0x1, 0x6ba, 0x6, 0x2, 0x1, 0x6c0, 0xa, 0x2, 0x1, 0x6d2, 0x2a, 0x2, 0x2, 0x6c6, 0x1, 0x2],
  [0x2, 0x6c6, 0x239, 0x2, 0x1, 0x3a, 0x4, 0x2, 0x1, 0x3016, 0x1e, 0x2, 0x1, 0x28, 0x4, 0x2, 0x1],
  [0x3014, 0x2, 0x2, 0x1, 0x3010, 0x2, 0x2, 0x1, 0x300a, 0x2, 0x2, 0x1, 0x3008, 0x2, 0x4, 0x1],
  [0x300c, 0x18, 0x2, 0x1, 0x28, 0x4, 0x2, 0x1, 0x3014, 0x4, 0x2, 0x1, 0x2a, 0x8, 0x2, 0x1, 0x24],
  [0x17, 0x2, 0x1, 0x621, 0x2, 0x2, 0x1, 0x622, 0x2, 0x2, 0x1, 0x623, 0x2, 0x2, 0x1, 0x624, 0x2],
  [0x2, 0x1, 0x625, 0x4, 0x2, 0x1, 0x626, 0x2, 0x2, 0x1, 0x627, 0x4, 0x2, 0x1, 0x628, 0x2, 0x2],
  [0x1, 0x629, 0x4, 0x2, 0x1, 0x62a, 0x4, 0x2, 0x1, 0x62b, 0x4, 0x2, 0x1, 0x62c, 0x4, 0x2, 0x1],
  [0x62d, 0x4, 0x2, 0x1, 0x62e, 0x2, 0x2, 0x1, 0x62f, 0x2, 0x2, 0x1, 0x630, 0x2, 0x2, 0x1, 0x631],
  [0x2, 0x2, 0x1, 0x632, 0x4, 0x2, 0x1, 0x633, 0x4, 0x2, 0x1, 0x634, 0x4, 0x2, 0x1, 0x635, 0x4],
  [0x2, 0x1, 0x636, 0x4, 0x2, 0x1, 0x637, 0x4, 0x2, 0x1, 0x638, 0x4, 0x2, 0x1, 0x639, 0x8, 0x2],
  [0x1, 0x641, 0x4, 0x2, 0x1, 0x642, 0x4, 0x2, 0x1, 0x643, 0x4, 0x2, 0x1, 0x644, 0x4, 0x2, 0x1],
  [0x645, 0x4, 0x2, 0x1, 0x646, 0x4, 0x2, 0x1, 0x647, 0x2, 0x2, 0x1, 0x648, 0x2, 0x2, 0x1, 0x649],
  [0x11, 0x20, 0x1, 0x21, 0x20, 0x1a, 0x1, 0x61, 0x1a, 0x24, 0x1, 0x5b, 0x24, 0x2, 0x1, 0x2985],
  [0x3, 0x2, 0x1, 0x300c, 0x13, 0x2, 0x1, 0x30aa, 0x10, 0x6, 0x1, 0x30ca, 0xa, 0x5, 0x1, 0x30de],
  [0x7, 0x6, 0x1, 0x30e8, 0x8, 0x2, 0x1, 0x3099, 0x3, 0x2, 0x1, 0x1100, 0x2, 0x2, 0x2, 0x11aa, 0x4],
  [0x3, 0x1, 0x1103, 0x3, 0x6, 0x1, 0x11b0, 0x7, 0x3, 0x1, 0x1106, 0x4, 0xa, 0x1, 0x1109, 0xd, 0x6],
  [0x1, 0x1161, 0x8, 0x6, 0x1, 0x1167, 0x8, 0x6, 0x1, 0x116d, 0x8, 0x3, 0x1, 0x1173, 0x6, 0x2, 0x1],
  [0xa2, 0x9, 0x4, 0x1, 0x2190, 0x417, 0x28, 0x1, 0x10428, 0xb0, 0x24, 0x1, 0x104d8, 0xc0, 0x13],
  [0x2, 0x10597, 0x1, 0x5, 0x2, 0x10598, 0xc, 0x7, 0x2, 0x105a4, 0x10, 0x3, 0x2, 0x105b4, 0x1f4],
  [0x2, 0x1, 0x2d0, 0x6, 0x2, 0x2, 0x2a3, 0x4, 0x2, 0x1, 0x256, 0xe, 0x2, 0x1, 0x2aa, 0xa, 0x2],
  [0x1, 0x276, 0x5, 0x2, 0x1, 0x27d, 0xb, 0x2, 0x1, 0x2a1, 0x3, 0x3, 0x1, 0x1c0, 0x4ca, 0x33, 0x1],
  [0x10cc0, 0xd0, 0x16, 0x1, 0x10d70, 0xb50, 0x20, 0x1, 0x118c0, 0x55a0, 0x20, 0x1, 0x16e60, 0x60],
  [0x19, 0x1, 0x16ebb, 0x5e36, 0x1a, 0x1, 0x61, 0x1a, 0xa, 0x1, 0x30, 0x710, 0x1a, 0x1, 0x61, 0x1a],
  [0x1a, 0x1, 0x61, 0x1a, 0x1a, 0x1, 0x61, 0x1a, 0xd, 0x2, 0x61, 0x1, 0x3, 0x2, 0x62, 0x8, 0x9],
  [0x2, 0x6a, 0x11, 0x1a, 0x1, 0x61, 0x1a, 0x1a, 0x1, 0x61, 0x1a, 0x2, 0x2, 0x61, 0x9, 0x2, 0x1],
  [0x6a, 0x4, 0x4, 0x1, 0x6e, 0x5, 0x8, 0x1, 0x73, 0x8, 0x4, 0x1, 0x61, 0x5, 0xb, 0x2, 0x66, 0x3],
  [0x3, 0x2, 0x69, 0x8, 0x5, 0x2, 0x71, 0xa, 0x1a, 0x1, 0x61, 0x1a, 0x1a, 0x1, 0x61, 0x1a, 0x2],
  [0x1, 0x61, 0x3, 0x4, 0x1, 0x64, 0x6, 0x8, 0x1, 0x6a, 0x9, 0x7, 0x1, 0x73, 0x8, 0x1a, 0x1, 0x61],
  [0x1a, 0x2, 0x1, 0x61, 0x3, 0x4, 0x1, 0x64, 0x5, 0x5, 0x1, 0x69, 0xa, 0x7, 0x1, 0x73, 0x8, 0x1a],
  [0x1, 0x61, 0x1a, 0x1a, 0x1, 0x61, 0x1a, 0x1a, 0x1, 0x61, 0x1a, 0x1a, 0x1, 0x61, 0x1a, 0x1a, 0x1],
  [0x61, 0x1a, 0x1a, 0x1, 0x61, 0x1a, 0x1a, 0x1, 0x61, 0x1a, 0x1a, 0x1, 0x61, 0x1a, 0x1a, 0x1],
  [0x61, 0x1a, 0x1a, 0x1, 0x61, 0x1a, 0x1a, 0x1, 0x61, 0x1a, 0x1a, 0x1, 0x61, 0x1a, 0x1a, 0x1],
  [0x61, 0x1e, 0x11, 0x1, 0x3b1, 0x12, 0x7, 0x1, 0x3c3, 0x8, 0x11, 0x1, 0x3b1, 0x12, 0x7, 0x1],
  [0x3c3, 0xe, 0x11, 0x1, 0x3b1, 0x12, 0x7, 0x1, 0x3c3, 0x8, 0x11, 0x1, 0x3b1, 0x12, 0x7, 0x1],
  [0x3c3, 0xe, 0x11, 0x1, 0x3b1, 0x12, 0x7, 0x1, 0x3c3, 0x8, 0x11, 0x1, 0x3b1, 0x12, 0x7, 0x1],
  [0x3c3, 0xe, 0x11, 0x1, 0x3b1, 0x12, 0x7, 0x1, 0x3c3, 0x8, 0x11, 0x1, 0x3b1, 0x12, 0x7, 0x1],
  [0x3c3, 0xe, 0x11, 0x1, 0x3b1, 0x12, 0x7, 0x1, 0x3c3, 0x8, 0x11, 0x1, 0x3b1, 0x12, 0x7, 0x1],
  [0x3c3, 0x12, 0xa, 0x1, 0x30, 0xa, 0xa, 0x1, 0x30, 0xa, 0xa, 0x1, 0x30, 0xa, 0xa, 0x1, 0x30, 0xa],
  [0xa, 0x1, 0x30, 0x83a, 0x9, 0x1, 0x430, 0x9, 0x3, 0x1, 0x43a, 0x3, 0xb, 0x1, 0x43e, 0xc, 0x2],
  [0x1, 0x44d, 0x9, 0x9, 0x1, 0x430, 0x9, 0x2, 0x1, 0x43a, 0x2, 0x2, 0x1, 0x43e, 0x3, 0x6, 0x1],
  [0x443, 0x6, 0x2, 0x1, 0x44a, 0x89b, 0x22, 0x1, 0x1e922, 0x500, 0x2, 0x1, 0x627, 0xa, 0x4, 0x1],
  [0x643, 0xb, 0x2, 0x1, 0x62a, 0x15, 0x4, 0x1, 0x643, 0xb, 0x2, 0x1, 0x62a, 0x16, 0x2, 0x2, 0x644],
  [0x1f, 0x2, 0x2, 0x643, 0xb, 0x2, 0x1, 0x62a, 0xb, 0x2, 0x1, 0x627, 0x4, 0x2, 0x1, 0x647, 0x7],
  [0x3, 0x1, 0x644, 0xa, 0x2, 0x1, 0x62a, 0x16, 0x3, 0x1, 0x644, 0xa, 0x2, 0x1, 0x62a, 0x27b, 0x1a],
  [0x1, 0x61, 0xac0, 0xa, 0x1, 0x30, 0xfc39, 0x2, 0x1, 0x5305, 0x7, 0x2, 0x2, 0x537d, 0x4b, 0x2],
  [0x2, 0x21de4, 0x6, 0x2, 0x1, 0x5de1, 0x74, 0x2, 0x1, 0x6bba, 0x50, 0x2, 0x1, 0x771e, 0xa3, 0x2],
  [0x1, 0x92d7]]

/-- Characters up to U+FFFF and the character that each becomes. -/
def singlesRows : List (List Nat) := [
  [0xa0, 0x20, 0xa, 0x61, 0xb, 0x3bc, 0x4, 0x31, 0x1, 0x6f, 0xbe, 0xff, 0x7, 0x73, 0x2, 0x253, 0x5],
  [0x254, 0x1, 0x188, 0x4, 0x18c, 0x3, 0x1dd, 0x1, 0x259, 0x1, 0x25b, 0x1, 0x192, 0x2, 0x260, 0x1],
  [0x263, 0x2, 0x269, 0x1, 0x268, 0x1, 0x199, 0x4, 0x26f, 0x1, 0x272, 0x2, 0x275, 0x7, 0x280, 0x1],
  [0x1a8, 0x2, 0x283, 0x3, 0x1ad, 0x2, 0x288, 0x1, 0x1b0, 0x8, 0x292, 0x1, 0x1b9, 0x4, 0x1bd, 0x38],
  [0x1f5, 0x2, 0x195, 0x1, 0x1bf, 0x29, 0x19e, 0x1a, 0x2c65, 0x1, 0x23c, 0x2, 0x19a, 0x1, 0x2c66],
  [0x3, 0x242, 0x2, 0x180, 0x1, 0x289, 0x1, 0x28c, 0x6c, 0x266, 0x2, 0x72, 0x1, 0x279, 0x1, 0x27b],
  [0x1, 0x281, 0x1, 0x77, 0x1, 0x79, 0x28, 0x263, 0x1, 0x6c, 0x1, 0x73, 0x1, 0x78, 0x1, 0x295],
  [0x5f, 0x313, 0x2, 0x3b9, 0x2f, 0x2b9, 0x2, 0x377, 0x8, 0x3b, 0x1, 0x3f3, 0x7, 0x3ac, 0x1, 0xb7],
  [0x5, 0x3cc, 0x43, 0x3d7, 0x1, 0x3b2, 0x1, 0x3b8, 0x1, 0x3c5, 0x1, 0x3cd, 0x1, 0x3cb, 0x1, 0x3c6],
  [0x1, 0x3c0, 0x1a, 0x3ba, 0x1, 0x3c1, 0x1, 0x3c3, 0x2, 0x3b8, 0x1, 0x3b5, 0x2, 0x3f8, 0x2, 0x3c3],
  [0x1, 0x3fb, 0xc6, 0x4cf, 0xa4c, 0xf0b, 0x1bb, 0x2d27, 0x6, 0x2d2d, 0x2f, 0x10dc, 0xb84, 0x432],
  [0x1, 0x434, 0x1, 0x43e, 0x3, 0x442, 0x1, 0x44a, 0x1, 0x463, 0x1, 0xa64b, 0x1, 0x1c8a, 0xa3],
  [0x61, 0x1, 0xe6, 0x5, 0x1dd, 0xa, 0x6f, 0x1, 0x223, 0x1, 0x70, 0x1, 0x72, 0x3, 0x77, 0x1, 0x61],
  [0x3, 0x1d02, 0x1, 0x62, 0x3, 0x259, 0x3, 0x67, 0x2, 0x6b, 0x2, 0x14b, 0x2, 0x254, 0x3, 0x70],
  [0x3, 0x1d1d, 0x1, 0x26f, 0x1, 0x76, 0x1, 0x1d25, 0x6, 0x69, 0x1, 0x72, 0x5, 0x3c1, 0x10, 0x43d],
  [0x23, 0x252, 0x1, 0x63, 0x1, 0x255, 0x1, 0xf0, 0x1, 0x25c, 0x1, 0x66, 0x1, 0x25f, 0x1, 0x261],
  [0x1, 0x265, 0x4, 0x1d7b, 0x1, 0x29d, 0x1, 0x26d, 0x1, 0x1d85, 0x1, 0x29f, 0x1, 0x271, 0x1],
  [0x270, 0x5, 0x278, 0x3, 0x1ab, 0x3, 0x1d1c, 0x3, 0x7a, 0x4, 0x3b8, 0xdc, 0x1e61, 0x3, 0xdf],
  [0xd3, 0x3ac, 0x2, 0x3ad, 0x2, 0x3ae, 0x2, 0x3af, 0x2, 0x3cc, 0x2, 0x3cd, 0x2, 0x3ce, 0x3d],
  [0x1f70, 0x1, 0x3ac, 0x3, 0x3b9, 0xb, 0x3ad, 0x2, 0x3ae, 0x8, 0x390, 0x7, 0x1f76, 0x1, 0x3af],
  [0x8, 0x3b0, 0x7, 0x1f7a, 0x1, 0x3cd, 0x1, 0x1fe5, 0x3, 0x60, 0x9, 0x1f78, 0x2, 0x1f7c, 0x6],
  [0x20, 0x1, 0x20, 0x1, 0x20, 0x1, 0x20, 0x1, 0x20, 0x1, 0x20, 0x1, 0x20, 0x1, 0x20, 0x1, 0x20],
  [0x1, 0x20, 0x1, 0x20, 0x7, 0x2010, 0x1e, 0x20, 0x30, 0x20, 0x11, 0x30, 0x1, 0x69, 0x9, 0x2b],
  [0x1, 0x2212, 0x1, 0x3d, 0x3, 0x6e, 0xb, 0x2b, 0x1, 0x2212, 0x1, 0x3d, 0x4, 0x61, 0x1, 0x65, 0x1],
  [0x6f, 0x1, 0x78, 0x1, 0x259, 0x1, 0x68, 0x5, 0x70, 0x68, 0x63, 0x5, 0x25b, 0x5, 0x68, 0x1, 0x68],
  [0x1, 0x68, 0x1, 0x127, 0x1, 0x69, 0x1, 0x69, 0x1, 0x6c, 0xa, 0x72, 0x1, 0x72, 0x7, 0x7a, 0x2],
  [0x3c9, 0x2, 0x7a, 0x2, 0x6b, 0x1, 0xe5, 0x4, 0x65, 0x3, 0x214e, 0x1, 0x6d, 0x1, 0x6f, 0x5, 0x69],
  [0x3, 0x3c0, 0x1, 0x3b3, 0x1, 0x3b3, 0x1, 0x3c0, 0x1, 0x2211, 0x5, 0x64, 0x1b, 0x69, 0x4, 0x76],
  [0x5, 0x78, 0x3, 0x6c, 0x3, 0x6d, 0x1, 0x69, 0x4, 0x76, 0x5, 0x78, 0x3, 0x6c, 0x3, 0x6d, 0x4],
  [0x2184, 0x367, 0x30, 0x776, 0x2c61, 0x2, 0x26b, 0x1, 0x1d7d, 0x1, 0x27d, 0x9, 0x251, 0x1, 0x271],
  [0x1, 0x250, 0x1, 0x252, 0x2, 0x2c73, 0x3, 0x2c76, 0x7, 0x6a, 0x1, 0x76, 0x75, 0x2cf3, 0x7d],
  [0x2d61, 0x130, 0x6bcd, 0x54, 0x9f9f, 0xd, 0x4e00, 0x1, 0x4e28, 0x1, 0x4e36, 0x1, 0x4e3f, 0x1],
  [0x4e59, 0x1, 0x4e85, 0x1, 0x4e8c, 0x1, 0x4ea0, 0x1, 0x4eba, 0x1, 0x513f, 0x1, 0x5165, 0x1],
  [0x516b, 0x1, 0x5182, 0x1, 0x5196, 0x1, 0x51ab, 0x1, 0x51e0, 0x1, 0x51f5, 0x1, 0x5200, 0x1],
  [0x529b, 0x1, 0x52f9, 0x1, 0x5315, 0x1, 0x531a, 0x1, 0x5338, 0x1, 0x5341, 0x1, 0x535c, 0x1],
  [0x5369, 0x1, 0x5382, 0x1, 0x53b6, 0x1, 0x53c8, 0x1, 0x53e3, 0x1, 0x56d7, 0x1, 0x571f, 0x1],
  [0x58eb, 0x1, 0x5902, 0x1, 0x590a, 0x1, 0x5915, 0x1, 0x5927, 0x1, 0x5973, 0x1, 0x5b50, 0x1],
  [0x5b80, 0x1, 0x5bf8, 0x1, 0x5c0f, 0x1, 0x5c22, 0x1, 0x5c38, 0x1, 0x5c6e, 0x1, 0x5c71, 0x1],
  [0x5ddb, 0x1, 0x5de5, 0x1, 0x5df1, 0x1, 0x5dfe, 0x1, 0x5e72, 0x1, 0x5e7a, 0x1, 0x5e7f, 0x1],
  [0x5ef4, 0x1, 0x5efe, 0x1, 0x5f0b, 0x1, 0x5f13, 0x1, 0x5f50, 0x1, 0x5f61, 0x1, 0x5f73, 0x1],
  [0x5fc3, 0x1, 0x6208, 0x1, 0x6236, 0x1, 0x624b, 0x1, 0x652f, 0x1, 0x6534, 0x1, 0x6587, 0x1],
  [0x6597, 0x1, 0x65a4, 0x1, 0x65b9, 0x1, 0x65e0, 0x1, 0x65e5, 0x1, 0x66f0, 0x1, 0x6708, 0x1],
  [0x6728, 0x1, 0x6b20, 0x1, 0x6b62, 0x1, 0x6b79, 0x1, 0x6bb3, 0x1, 0x6bcb, 0x1, 0x6bd4, 0x1],
  [0x6bdb, 0x1, 0x6c0f, 0x1, 0x6c14, 0x1, 0x6c34, 0x1, 0x706b, 0x1, 0x722a, 0x1, 0x7236, 0x1],
  [0x723b, 0x1, 0x723f, 0x1, 0x7247, 0x1, 0x7259, 0x1, 0x725b, 0x1, 0x72ac, 0x1, 0x7384, 0x1],
  [0x7389, 0x1, 0x74dc, 0x1, 0x74e6, 0x1, 0x7518, 0x1, 0x751f, 0x1, 0x7528, 0x1, 0x7530, 0x1],
  [0x758b, 0x1, 0x7592, 0x1, 0x7676, 0x1, 0x767d, 0x1, 0x76ae, 0x1, 0x76bf, 0x1, 0x76ee, 0x1],
  [0x77db, 0x1, 0x77e2, 0x1, 0x77f3, 0x1, 0x793a, 0x1, 0x79b8, 0x1, 0x79be, 0x1, 0x7a74, 0x1],
  [0x7acb, 0x1, 0x7af9, 0x1, 0x7c73, 0x1, 0x7cf8, 0x1, 0x7f36, 0x1, 0x7f51, 0x1, 0x7f8a, 0x1],
  [0x7fbd, 0x1, 0x8001, 0x1, 0x800c, 0x1, 0x8012, 0x1, 0x8033, 0x1, 0x807f, 0x1, 0x8089, 0x1],
  [0x81e3, 0x1, 0x81ea, 0x1, 0x81f3, 0x1, 0x81fc, 0x1, 0x820c, 0x1, 0x821b, 0x1, 0x821f, 0x1],
  [0x826e, 0x1, 0x8272, 0x1, 0x8278, 0x1, 0x864d, 0x1, 0x866b, 0x1, 0x8840, 0x1, 0x884c, 0x1],
  [0x8863, 0x1, 0x897e, 0x1, 0x898b, 0x1, 0x89d2, 0x1, 0x8a00, 0x1, 0x8c37, 0x1, 0x8c46, 0x1],
  [0x8c55, 0x1, 0x8c78, 0x1, 0x8c9d, 0x1, 0x8d64, 0x1, 0x8d70, 0x1, 0x8db3, 0x1, 0x8eab, 0x1],
  [0x8eca, 0x1, 0x8f9b, 0x1, 0x8fb0, 0x1, 0x8fb5, 0x1, 0x9091, 0x1, 0x9149, 0x1, 0x91c6, 0x1],
  [0x91cc, 0x1, 0x91d1, 0x1, 0x9577, 0x1, 0x9580, 0x1, 0x961c, 0x1, 0x96b6, 0x1, 0x96b9, 0x1],
  [0x96e8, 0x1, 0x9751, 0x1, 0x975e, 0x1, 0x9762, 0x1, 0x9769, 0x1, 0x97cb, 0x1, 0x97ed, 0x1],
  [0x97f3, 0x1, 0x9801, 0x1, 0x98a8, 0x1, 0x98db, 0x1, 0x98df, 0x1, 0x9996, 0x1, 0x9999, 0x1],
  [0x99ac, 0x1, 0x9aa8, 0x1, 0x9ad8, 0x1, 0x9adf, 0x1, 0x9b25, 0x1, 0x9b2f, 0x1, 0x9b32, 0x1],
  [0x9b3c, 0x1, 0x9b5a, 0x1, 0x9ce5, 0x1, 0x9e75, 0x1, 0x9e7f, 0x1, 0x9ea5, 0x1, 0x9ebb, 0x1],
  [0x9ec3, 0x1, 0x9ecd, 0x1, 0x9ed1, 0x1, 0x9ef9, 0x1, 0x9efd, 0x1, 0x9f0e, 0x1, 0x9f13, 0x1],
  [0x9f20, 0x1, 0x9f3b, 0x1, 0x9f4a, 0x1, 0x9f52, 0x1, 0x9f8d, 0x1, 0x9f9c, 0x1, 0x9fa0, 0x2b],
  [0x20, 0x2, 0x2e, 0x34, 0x3012, 0x2, 0x5341, 0xfc, 0x1102, 0x2, 0x11ad, 0xa, 0x111a, 0x4, 0x1121],
  [0x25, 0x11cc, 0x1, 0x11ce, 0x1, 0x11d3, 0x1, 0x11d7, 0x1, 0x11d9, 0x1, 0x111c, 0x1, 0x11dd, 0x1],
  [0x11df, 0x3, 0x1120, 0x3, 0x1127, 0x1, 0x1129, 0x6, 0x1132, 0x1, 0x1136, 0x1, 0x1140, 0x1],
  [0x1147, 0x1, 0x114c, 0x8, 0x1188, 0x3, 0x1194, 0x1, 0x119e, 0x1, 0x11a1, 0x4, 0x4e00, 0x1],
  [0x4e8c, 0x1, 0x4e09, 0x1, 0x56db, 0x1, 0x4e0a, 0x1, 0x4e2d, 0x1, 0x4e0b, 0x1, 0x7532, 0x1],
  [0x4e59, 0x1, 0x4e19, 0x1, 0x4e01, 0x1, 0x5929, 0x1, 0x5730, 0x1, 0x4eba, 0xa5, 0x554f, 0x1],
  [0x5e7c, 0x1, 0x6587, 0x1, 0x7b8f, 0x19, 0x1100, 0x6, 0x1109, 0x8, 0xac00, 0x1, 0xb098, 0x1],
  [0xb2e4, 0x1, 0xb77c, 0x1, 0xb9c8, 0x1, 0xbc14, 0x1, 0xc0ac, 0x1, 0xc544, 0x1, 0xc790, 0x1],
  [0xcc28, 0x1, 0xce74, 0x1, 0xd0c0, 0x1, 0xd30c, 0x1, 0xd558, 0x3, 0xc6b0, 0x2, 0x4e00, 0x1],
  [0x4e8c, 0x1, 0x4e09, 0x1, 0x56db, 0x1, 0x4e94, 0x1, 0x516d, 0x1, 0x4e03, 0x1, 0x516b, 0x1],
  [0x4e5d, 0x1, 0x5341, 0x1, 0x6708, 0x1, 0x706b, 0x1, 0x6c34, 0x1, 0x6728, 0x1, 0x91d1, 0x1],
  [0x571f, 0x1, 0x65e5, 0x1, 0x682a, 0x1, 0x6709, 0x1, 0x793e, 0x1, 0x540d, 0x1, 0x7279, 0x1],
  [0x8ca1, 0x1, 0x795d, 0x1, 0x52b4, 0x1, 0x79d8, 0x1, 0x7537, 0x1, 0x5973, 0x1, 0x9069, 0x1],
  [0x512a, 0x1, 0x5370, 0x1, 0x6ce8, 0x1, 0x9805, 0x1, 0x4f11, 0x1, 0x5199, 0x1, 0x6b63, 0x1],
  [0x4e0a, 0x1, 0x4e2d, 0x1, 0x4e0b, 0x1, 0x5de6, 0x1, 0x53f3, 0x1, 0x533b, 0x1, 0x5b97, 0x1],
  [0x5b66, 0x1, 0x76e3, 0x1, 0x4f01, 0x1, 0x8cc7, 0x1, 0x5354, 0x1, 0x591c, 0x20, 0x30a2, 0x1],
  [0x30a4, 0x1, 0x30a6, 0x1, 0x30a8, 0x3, 0x30ad, 0x1, 0x30af, 0x1, 0x30b1, 0x1, 0x30b3, 0x1],
  [0x30b5, 0x1, 0x30b7, 0x1, 0x30b9, 0x1, 0x30bb, 0x1, 0x30bd, 0x1, 0x30bf, 0x1, 0x30c1, 0x1],
  [0x30c4, 0x1, 0x30c6, 0x1, 0x30c8, 0x7, 0x30d2, 0x1, 0x30d5, 0x1, 0x30d8, 0x1, 0x30db, 0x6],
  [0x30e4, 0x1, 0x30e6, 0x73a8, 0x44a, 0x1, 0x44c, 0xd3, 0xa76f, 0xd, 0x1d79, 0xe, 0xa78c, 0x2],
  [0x265, 0x1d, 0x266, 0x1, 0x25c, 0x1, 0x261, 0x1, 0x26c, 0x1, 0x26a, 0x2, 0x29e, 0x1, 0x287, 0x1],
  [0x29d, 0x1, 0xab53, 0x11, 0xa794, 0x1, 0x282, 0x1, 0x1d8e, 0x5, 0x264, 0x11, 0x19b, 0x15, 0x73],
  [0x1, 0x63, 0x1, 0x66, 0x1, 0x71, 0x1, 0xa7f6, 0x3, 0x127, 0x1, 0x153, 0x363, 0xa727, 0x1],
  [0xab37, 0x1, 0x26b, 0x1, 0xab52, 0xa, 0x28d, 0x4d97, 0x8c48, 0x1, 0x66f4, 0x1, 0x8eca, 0x1],
  [0x8cc8, 0x1, 0x6ed1, 0x1, 0x4e32, 0x1, 0x53e5, 0x1, 0x9f9c, 0x1, 0x9f9c, 0x1, 0x5951, 0x1],
  [0x91d1, 0x1, 0x5587, 0x1, 0x5948, 0x1, 0x61f6, 0x1, 0x7669, 0x1, 0x7f85, 0x1, 0x863f, 0x1],
  [0x87ba, 0x1, 0x88f8, 0x1, 0x908f, 0x1, 0x6a02, 0x1, 0x6d1b, 0x1, 0x70d9, 0x1, 0x73de, 0x1],
  [0x843d, 0x1, 0x916a, 0x1, 0x99f1, 0x1, 0x4e82, 0x1, 0x5375, 0x1, 0x6b04, 0x1, 0x721b, 0x1],
  [0x862d, 0x1, 0x9e1e, 0x1, 0x5d50, 0x1, 0x6feb, 0x1, 0x85cd, 0x1, 0x8964, 0x1, 0x62c9, 0x1],
  [0x81d8, 0x1, 0x881f, 0x1, 0x5eca, 0x1, 0x6717, 0x1, 0x6d6a, 0x1, 0x72fc, 0x1, 0x90ce, 0x1],
  [0x4f86, 0x1, 0x51b7, 0x1, 0x52de, 0x1, 0x64c4, 0x1, 0x6ad3, 0x1, 0x7210, 0x1, 0x76e7, 0x1],
  [0x8001, 0x1, 0x8606, 0x1, 0x865c, 0x1, 0x8def, 0x1, 0x9732, 0x1, 0x9b6f, 0x1, 0x9dfa, 0x1],
  [0x788c, 0x1, 0x797f, 0x1, 0x7da0, 0x1, 0x83c9, 0x1, 0x9304, 0x1, 0x9e7f, 0x1, 0x8ad6, 0x1],
  [0x58df, 0x1, 0x5f04, 0x1, 0x7c60, 0x1, 0x807e, 0x1, 0x7262, 0x1, 0x78ca, 0x1, 0x8cc2, 0x1],
  [0x96f7, 0x1, 0x58d8, 0x1, 0x5c62, 0x1, 0x6a13, 0x1, 0x6dda, 0x1, 0x6f0f, 0x1, 0x7d2f, 0x1],
  [0x7e37, 0x1, 0x964b, 0x1, 0x52d2, 0x1, 0x808b, 0x1, 0x51dc, 0x1, 0x51cc, 0x1, 0x7a1c, 0x1],
  [0x7dbe, 0x1, 0x83f1, 0x1, 0x9675, 0x1, 0x8b80, 0x1, 0x62cf, 0x1, 0x6a02, 0x1, 0x8afe, 0x1],
  [0x4e39, 0x1, 0x5be7, 0x1, 0x6012, 0x1, 0x7387, 0x1, 0x7570, 0x1, 0x5317, 0x1, 0x78fb, 0x1],
  [0x4fbf, 0x1, 0x5fa9, 0x1, 0x4e0d, 0x1, 0x6ccc, 0x1, 0x6578, 0x1, 0x7d22, 0x1, 0x53c3, 0x1],
  [0x585e, 0x1, 0x7701, 0x1, 0x8449, 0x1, 0x8aaa, 0x1, 0x6bba, 0x1, 0x8fb0, 0x1, 0x6c88, 0x1],
  [0x62fe, 0x1, 0x82e5, 0x1, 0x63a0, 0x1, 0x7565, 0x1, 0x4eae, 0x1, 0x5169, 0x1, 0x51c9, 0x1],
  [0x6881, 0x1, 0x7ce7, 0x1, 0x826f, 0x1, 0x8ad2, 0x1, 0x91cf, 0x1, 0x52f5, 0x1, 0x5442, 0x1],
  [0x5973, 0x1, 0x5eec, 0x1, 0x65c5, 0x1, 0x6ffe, 0x1, 0x792a, 0x1, 0x95ad, 0x1, 0x9a6a, 0x1],
  [0x9e97, 0x1, 0x9ece, 0x1, 0x529b, 0x1, 0x66c6, 0x1, 0x6b77, 0x1, 0x8f62, 0x1, 0x5e74, 0x1],
  [0x6190, 0x1, 0x6200, 0x1, 0x649a, 0x1, 0x6f23, 0x1, 0x7149, 0x1, 0x7489, 0x1, 0x79ca, 0x1],
  [0x7df4, 0x1, 0x806f, 0x1, 0x8f26, 0x1, 0x84ee, 0x1, 0x9023, 0x1, 0x934a, 0x1, 0x5217, 0x1],
  [0x52a3, 0x1, 0x54bd, 0x1, 0x70c8, 0x1, 0x88c2, 0x1, 0x8aaa, 0x1, 0x5ec9, 0x1, 0x5ff5, 0x1],
  [0x637b, 0x1, 0x6bae, 0x1, 0x7c3e, 0x1, 0x7375, 0x1, 0x4ee4, 0x1, 0x56f9, 0x1, 0x5be7, 0x1],
  [0x5dba, 0x1, 0x601c, 0x1, 0x73b2, 0x1, 0x7469, 0x1, 0x7f9a, 0x1, 0x8046, 0x1, 0x9234, 0x1],
  [0x96f6, 0x1, 0x9748, 0x1, 0x9818, 0x1, 0x4f8b, 0x1, 0x79ae, 0x1, 0x91b4, 0x1, 0x96b8, 0x1],
  [0x60e1, 0x1, 0x4e86, 0x1, 0x50da, 0x1, 0x5bee, 0x1, 0x5c3f, 0x1, 0x6599, 0x1, 0x6a02, 0x1],
  [0x71ce, 0x1, 0x7642, 0x1, 0x84fc, 0x1, 0x907c, 0x1, 0x9f8d, 0x1, 0x6688, 0x1, 0x962e, 0x1],
  [0x5289, 0x1, 0x677b, 0x1, 0x67f3, 0x1, 0x6d41, 0x1, 0x6e9c, 0x1, 0x7409, 0x1, 0x7559, 0x1],
  [0x786b, 0x1, 0x7d10, 0x1, 0x985e, 0x1, 0x516d, 0x1, 0x622e, 0x1, 0x9678, 0x1, 0x502b, 0x1],
  [0x5d19, 0x1, 0x6dea, 0x1, 0x8f2a, 0x1, 0x5f8b, 0x1, 0x6144, 0x1, 0x6817, 0x1, 0x7387, 0x1],
  [0x9686, 0x1, 0x5229, 0x1, 0x540f, 0x1, 0x5c65, 0x1, 0x6613, 0x1, 0x674e, 0x1, 0x68a8, 0x1],
  [0x6ce5, 0x1, 0x7406, 0x1, 0x75e2, 0x1, 0x7f79, 0x1, 0x88cf, 0x1, 0x88e1, 0x1, 0x91cc, 0x1],
  [0x96e2, 0x1, 0x533f, 0x1, 0x6eba, 0x1, 0x541d, 0x1, 0x71d0, 0x1, 0x7498, 0x1, 0x85fa, 0x1],
  [0x96a3, 0x1, 0x9c57, 0x1, 0x9e9f, 0x1, 0x6797, 0x1, 0x6dcb, 0x1, 0x81e8, 0x1, 0x7acb, 0x1],
  [0x7b20, 0x1, 0x7c92, 0x1, 0x72c0, 0x1, 0x7099, 0x1, 0x8b58, 0x1, 0x4ec0, 0x1, 0x8336, 0x1],
  [0x523a, 0x1, 0x5207, 0x1, 0x5ea6, 0x1, 0x62d3, 0x1, 0x7cd6, 0x1, 0x5b85, 0x1, 0x6d1e, 0x1],
  [0x66b4, 0x1, 0x8f3b, 0x1, 0x884c, 0x1, 0x964d, 0x1, 0x898b, 0x1, 0x5ed3, 0x1, 0x5140, 0x1],
  [0x55c0, 0x3, 0x585a, 0x2, 0x6674, 0x3, 0x51de, 0x1, 0x732a, 0x1, 0x76ca, 0x1, 0x793c, 0x1],
  [0x795e, 0x1, 0x7965, 0x1, 0x798f, 0x1, 0x9756, 0x1, 0x7cbe, 0x1, 0x7fbd, 0x2, 0x8612, 0x2],
  [0x8af8, 0x3, 0x9038, 0x1, 0x90fd, 0x4, 0x98ef, 0x1, 0x98fc, 0x1, 0x9928, 0x1, 0x9db4, 0x1],
  [0x90de, 0x1, 0x96b7, 0x1, 0x4fae, 0x1, 0x50e7, 0x1, 0x514d, 0x1, 0x52c9, 0x1, 0x52e4, 0x1],
  [0x5351, 0x1, 0x559d, 0x1, 0x5606, 0x1, 0x5668, 0x1, 0x5840, 0x1, 0x58a8, 0x1, 0x5c64, 0x1],
  [0x5c6e, 0x1, 0x6094, 0x1, 0x6168, 0x1, 0x618e, 0x1, 0x61f2, 0x1, 0x654f, 0x1, 0x65e2, 0x1],
  [0x6691, 0x1, 0x6885, 0x1, 0x6d77, 0x1, 0x6e1a, 0x1, 0x6f22, 0x1, 0x716e, 0x1, 0x722b, 0x1],
  [0x7422, 0x1, 0x7891, 0x1, 0x793e, 0x1, 0x7949, 0x1, 0x7948, 0x1, 0x7950, 0x1, 0x7956, 0x1],
  [0x795d, 0x3, 0x7a40, 0x1, 0x7a81, 0x1, 0x7bc0, 0x1, 0x7df4, 0x1, 0x7e09, 0x1, 0x7e41, 0x1],
  [0x7f72, 0x1, 0x8005, 0x1, 0x81ed, 0x1, 0x8279, 0x1, 0x8279, 0x1, 0x8457, 0x1, 0x8910, 0x1],
  [0x8996, 0x1, 0x8b01, 0x1, 0x8b39, 0x1, 0x8cd3, 0x1, 0x8d08, 0x1, 0x8fb6, 0x1, 0x9038, 0x1],
  [0x96e3, 0x1, 0x97ff, 0x1, 0x983b, 0x1, 0x6075, 0x1, 0x242ee, 0x1, 0x8218, 0x3, 0x4e26, 0x1],
  [0x51b5, 0x1, 0x5168, 0x1, 0x4f80, 0x1, 0x5145, 0x1, 0x5180, 0x1, 0x52c7, 0x1, 0x52fa, 0x1],
  [0x559d, 0x1, 0x5555, 0x1, 0x5599, 0x1, 0x55e2, 0x1, 0x585a, 0x1, 0x58b3, 0x1, 0x5944, 0x1],
  [0x5954, 0x1, 0x5a62, 0x1, 0x5b28, 0x1, 0x5ed2, 0x1, 0x5ed9, 0x1, 0x5f69, 0x1, 0x5fad, 0x1],
  [0x60d8, 0x1, 0x614e, 0x1, 0x6108, 0x1, 0x618e, 0x1, 0x6160, 0x1, 0x61f2, 0x1, 0x6234, 0x1],
  [0x63c4, 0x1, 0x641c, 0x1, 0x6452, 0x1, 0x6556, 0x1, 0x6674, 0x1, 0x6717, 0x1, 0x671b, 0x1],
  [0x6756, 0x1, 0x6b79, 0x1, 0x6bba, 0x1, 0x6d41, 0x1, 0x6edb, 0x1, 0x6ecb, 0x1, 0x6f22, 0x1],
  [0x701e, 0x1, 0x716e, 0x1, 0x77a7, 0x1, 0x7235, 0x1, 0x72af, 0x1, 0x732a, 0x1, 0x7471, 0x1],
  [0x7506, 0x1, 0x753b, 0x1, 0x761d, 0x1, 0x761f, 0x1, 0x76ca, 0x1, 0x76db, 0x1, 0x76f4, 0x1],
  [0x774a, 0x1, 0x7740, 0x1, 0x78cc, 0x1, 0x7ab1, 0x1, 0x7bc0, 0x1, 0x7c7b, 0x1, 0x7d5b, 0x1],
  [0x7df4, 0x1, 0x7f3e, 0x1, 0x8005, 0x1, 0x8352, 0x1, 0x83ef, 0x1, 0x8779, 0x1, 0x8941, 0x1],
  [0x8986, 0x1, 0x8996, 0x1, 0x8abf, 0x1, 0x8af8, 0x1, 0x8acb, 0x1, 0x8b01, 0x1, 0x8afe, 0x1],
  [0x8aed, 0x1, 0x8b39, 0x1, 0x8b8a, 0x1, 0x8d08, 0x1, 0x8f38, 0x1, 0x9072, 0x1, 0x9199, 0x1],
  [0x9276, 0x1, 0x967c, 0x1, 0x96e3, 0x1, 0x9756, 0x1, 0x97db, 0x1, 0x97ff, 0x1, 0x980b, 0x1],
  [0x983b, 0x1, 0x9b12, 0x1, 0x9f9c, 0x1, 0x2284a, 0x1, 0x22844, 0x1, 0x233d5, 0x1, 0x3b9d, 0x1],
  [0x4018, 0x1, 0x4039, 0x1, 0x25249, 0x1, 0x25cd0, 0x1, 0x27ed3, 0x1, 0x9f43, 0x1, 0x9f8e, 0x47],
  [0x5e2, 0x1, 0x5d0, 0x6, 0x5e8, 0x1, 0x5ea, 0x1, 0x2b, 0x27, 0x671, 0x1, 0x671, 0x1, 0x67b, 0x1],
  [0x67b, 0x1, 0x67b, 0x1, 0x67b, 0x1, 0x67e, 0x1, 0x67e, 0x5, 0x680, 0x1, 0x680, 0x1, 0x67a, 0x1],
  [0x67a, 0x1, 0x67a, 0x1, 0x67a, 0x1, 0x67f, 0x1, 0x67f, 0x1, 0x67f, 0x1, 0x67f, 0x1, 0x679, 0x1],
  [0x679, 0x1, 0x679, 0x1, 0x679, 0x1, 0x6a4, 0x1, 0x6a4, 0x5, 0x6a6, 0x1, 0x6a6, 0x1, 0x684, 0x1],
  [0x684, 0x1, 0x684, 0x1, 0x684, 0x1, 0x683, 0x1, 0x683, 0x1, 0x683, 0x1, 0x683, 0x1, 0x686, 0x1],
  [0x686, 0x1, 0x686, 0x3, 0x687, 0x1, 0x687, 0x1, 0x687, 0x1, 0x68d, 0x1, 0x68d, 0x5, 0x688, 0x1],
  [0x688, 0x1, 0x698, 0x1, 0x698, 0x1, 0x691, 0x1, 0x691, 0x1, 0x6a9, 0x1, 0x6a9, 0x1, 0x6a9, 0x1],
  [0x6a9, 0x1, 0x6af, 0x1, 0x6af, 0x1, 0x6af, 0x1, 0x6af, 0x1, 0x6b3, 0x1, 0x6b3, 0x1, 0x6b3, 0x1],
  [0x6b3, 0x1, 0x6b1, 0x1, 0x6b1, 0x1, 0x6b1, 0x1, 0x6b1, 0x1, 0x6ba, 0x3, 0x6bb, 0x1, 0x6bb, 0x1],
  [0x6bb, 0x1, 0x6c0, 0x3, 0x6c1, 0x1, 0x6c1, 0x1, 0x6c1, 0x1, 0x6be, 0x1, 0x6be, 0x1, 0x6be, 0x1],
  [0x6be, 0x1, 0x6d2, 0x3, 0x6d3, 0x22, 0x6ad, 0x1, 0x6ad, 0x1, 0x6ad, 0x1, 0x6ad, 0x1, 0x6c7, 0x1],
  [0x6c7, 0x6, 0x6cb, 0x1, 0x6cb, 0x1, 0x6c5, 0x1, 0x6c5, 0x1, 0x6c9, 0x1, 0x6c9, 0x1, 0x6d0, 0x1],
  [0x6d0, 0x1, 0x6d0, 0x1, 0x6d0, 0x1, 0x649, 0x1, 0x649, 0x13, 0x6cc, 0x1, 0x6cc, 0x1, 0x6cc, 0x1],
  [0x6cc, 0x211, 0x2c, 0x1, 0x3001, 0x4, 0x21, 0x1, 0x3f, 0x1b, 0x2014, 0x1, 0x2013, 0x1, 0x5f],
  [0x1, 0x5f, 0x3, 0x7b, 0x1, 0x7d, 0xf, 0x5b, 0x1, 0x5d, 0x5, 0x5f, 0x1, 0x5f, 0x1, 0x5f, 0x1],
  [0x2c, 0x1, 0x3001, 0x3, 0x3b, 0x1, 0x3a, 0x1, 0x3f, 0x1, 0x21, 0x1, 0x2014, 0x3, 0x7b, 0x1],
  [0x7d, 0x3, 0x23, 0x1, 0x26, 0x3, 0x2d, 0x1, 0x3c, 0x1, 0x3e, 0x1, 0x3d, 0x2, 0x5c, 0x3, 0x40],
  [0x1f, 0x626, 0x1, 0x626, 0x5, 0x628, 0x1, 0x628, 0x5, 0x62a, 0x1, 0x62a, 0x3, 0x62b, 0x1, 0x62b],
  [0x3, 0x62c, 0x1, 0x62c, 0x3, 0x62d, 0x1, 0x62d, 0x3, 0x62e, 0x1, 0x62e, 0xb, 0x633, 0x1, 0x633],
  [0x3, 0x634, 0x1, 0x634, 0x3, 0x635, 0x1, 0x635, 0x3, 0x636, 0x1, 0x636, 0x3, 0x637, 0x1, 0x637],
  [0x3, 0x638, 0x1, 0x638, 0x3, 0x639, 0x1, 0x639, 0x3, 0x63a, 0x1, 0x63a, 0x1, 0x63a, 0x1, 0x641],
  [0x1, 0x641, 0x1, 0x641, 0x3, 0x642, 0x1, 0x642, 0x3, 0x643, 0x1, 0x643, 0x3, 0x644, 0x1, 0x644],
  [0x3, 0x645, 0x1, 0x645, 0x3, 0x646, 0x1, 0x646, 0x3, 0x647, 0x1, 0x647, 0x7, 0x64a, 0x1, 0x64a],
  [0x1, 0x64a, 0x6d, 0x2e, 0x3, 0x3001, 0x1, 0x30fb, 0x1, 0x30f2, 0x1, 0x30a1, 0x1, 0x30a3, 0x1],
  [0x30a5, 0x1, 0x30a7, 0x1, 0x30a9, 0x1, 0x30e3, 0x1, 0x30e5, 0x1, 0x30e7, 0x1, 0x30c3, 0x1],
  [0x30fc, 0x1, 0x30a2, 0x1, 0x30a4, 0x1, 0x30a6, 0x1, 0x30a8, 0x3, 0x30ad, 0x1, 0x30af, 0x1],
  [0x30b1, 0x1, 0x30b3, 0x1, 0x30b5, 0x1, 0x30b7, 0x1, 0x30b9, 0x1, 0x30bb, 0x1, 0x30bd, 0x1],
  [0x30bf, 0x1, 0x30c1, 0x1, 0x30c4, 0x1, 0x30c6, 0x1, 0x30c8, 0x7, 0x30d2, 0x1, 0x30d5, 0x1],
  [0x30d8, 0x1, 0x30db, 0x6, 0x30e4, 0x1, 0x30e6, 0x7, 0x30ef, 0x1, 0x30f3, 0x7, 0x1102, 0x2],
  [0x11ad, 0xa, 0x111a, 0x4, 0x1121, 0x2e, 0xac, 0x2, 0xa6, 0x1, 0xa5, 0x1, 0x20a9, 0x2, 0x2502],
  [0x5, 0x25a0, 0x1, 0x25cb]]

/-- The same for the characters after them. -/
def laterSinglesRows : List (List Nat) := [
  [0x5a7, 0x105bc, 0x1ee, 0xe6, 0x1, 0x299, 0x1, 0x253, 0x3, 0xab66, 0x2, 0x2a4, 0x3, 0x1d91, 0x1],
  [0x258, 0x1, 0x25e, 0x1, 0x2a9, 0x1, 0x264, 0x1, 0x262, 0x1, 0x260, 0x1, 0x29b, 0x1, 0x127, 0x1],
  [0x29c, 0x1, 0x267, 0x1, 0x284, 0x3, 0x26c, 0x1, 0x1df04, 0x1, 0xa78e, 0x1, 0x26e, 0x1, 0x1df05],
  [0x1, 0x28e, 0x1, 0x1df06, 0x1, 0xf8, 0x3, 0x71, 0x1, 0x27a, 0x1, 0x1df08, 0x3, 0x280, 0x1],
  [0x2a8, 0x1, 0x2a6, 0x1, 0xab67, 0x1, 0x2a7, 0x1, 0x288, 0x1, 0x2c71, 0x2, 0x28f, 0x3, 0x298],
  [0x4, 0x1df0a, 0x1, 0x1df1e, 0xcce5, 0x64, 0x3, 0x67, 0xa4, 0x6f, 0x15e, 0x131, 0x1, 0x237, 0x14],
  [0x3b8, 0x8, 0x2207, 0x12, 0x3c3, 0x8, 0x2202, 0x1, 0x3b5, 0x1, 0x3b8, 0x1, 0x3ba, 0x1, 0x3c6],
  [0x1, 0x3c1, 0x1, 0x3c0, 0x12, 0x3b8, 0x8, 0x2207, 0x12, 0x3c3, 0x8, 0x2202, 0x1, 0x3b5, 0x1],
  [0x3b8, 0x1, 0x3ba, 0x1, 0x3c6, 0x1, 0x3c1, 0x1, 0x3c0, 0x12, 0x3b8, 0x8, 0x2207, 0x12, 0x3c3],
  [0x8, 0x2202, 0x1, 0x3b5, 0x1, 0x3b8, 0x1, 0x3ba, 0x1, 0x3c6, 0x1, 0x3c1, 0x1, 0x3c0, 0x12],
  [0x3b8, 0x8, 0x2207, 0x12, 0x3c3, 0x8, 0x2202, 0x1, 0x3b5, 0x1, 0x3b8, 0x1, 0x3ba, 0x1, 0x3c6],
  [0x1, 0x3c1, 0x1, 0x3c0, 0x12, 0x3b8, 0x8, 0x2207, 0x12, 0x3c3, 0x8, 0x2202, 0x1, 0x3b5, 0x1],
  [0x3b8, 0x1, 0x3ba, 0x1, 0x3c6, 0x1, 0x3c1, 0x1, 0x3c0, 0x1, 0x3dd, 0x1, 0x3dd, 0x87c, 0x44b],
  [0x3, 0xa689, 0x1, 0x4d9, 0x1, 0x456, 0x1, 0x458, 0x1, 0x4e9, 0x1, 0x4af, 0x1, 0x4cf, 0xe, 0x441],
  [0x9, 0x491, 0x1, 0x456, 0x1, 0x455, 0x1, 0x45f, 0x1, 0x4ab, 0x1, 0xa651, 0x1, 0x4b1, 0xd95],
  [0x62c, 0x1, 0x62f, 0x2, 0x648, 0x1, 0x632, 0x1, 0x62d, 0x1, 0x637, 0x1, 0x64a, 0x5, 0x633, 0x1],
  [0x639, 0x1, 0x641, 0x1, 0x635, 0x1, 0x642, 0x1, 0x631, 0x1, 0x634, 0x3, 0x62e, 0x1, 0x630, 0x1],
  [0x636, 0x1, 0x638, 0x1, 0x63a, 0x1, 0x66e, 0x1, 0x6ba, 0x1, 0x6a1, 0x1, 0x66f, 0x2, 0x628, 0x1],
  [0x62c, 0x2, 0x647, 0x3, 0x62d, 0x2, 0x64a, 0x5, 0x633, 0x1, 0x639, 0x1, 0x641, 0x1, 0x635, 0x1],
  [0x642, 0x2, 0x634, 0x3, 0x62e, 0x2, 0x636, 0x2, 0x63a, 0x7, 0x62c, 0x5, 0x62d, 0x2, 0x64a, 0x5],
  [0x633, 0x1, 0x639, 0x2, 0x635, 0x1, 0x642, 0x2, 0x634, 0x3, 0x62e, 0x2, 0x636, 0x2, 0x63a, 0x2],
  [0x6ba, 0x2, 0x66f, 0x2, 0x628, 0x1, 0x62c, 0x2, 0x647, 0x3, 0x62d, 0x1, 0x637, 0x1, 0x64a, 0x4],
  [0x646, 0x1, 0x633, 0x1, 0x639, 0x1, 0x641, 0x1, 0x635, 0x1, 0x642, 0x2, 0x634, 0x3, 0x62e, 0x2],
  [0x636, 0x1, 0x638, 0x1, 0x63a, 0x1, 0x66e, 0x2, 0x6a1, 0x4, 0x62c, 0x1, 0x62f, 0x3, 0x632, 0x1],
  [0x62d, 0x1, 0x637, 0x1, 0x64a, 0x5, 0x633, 0x1, 0x639, 0x1, 0x641, 0x1, 0x635, 0x1, 0x642, 0x1],
  [0x631, 0x1, 0x634, 0x3, 0x62e, 0x1, 0x630, 0x1, 0x636, 0x1, 0x638, 0x1, 0x63a, 0x6, 0x628, 0x1],
  [0x62c, 0x1, 0x62f, 0x2, 0x648, 0x1, 0x632, 0x1, 0x62d, 0x1, 0x637, 0x1, 0x64a, 0x5, 0x633, 0x1],
  [0x639, 0x1, 0x641, 0x1, 0x635, 0x1, 0x642, 0x1, 0x631, 0x1, 0x634, 0x3, 0x62e, 0x1, 0x630, 0x1],
  [0x636, 0x1, 0x638, 0x1, 0x63a, 0x270, 0x63, 0x1, 0x72, 0xd6, 0x30b5, 0xe, 0x624b, 0x1, 0x5b57],
  [0x1, 0x53cc, 0x1, 0x30c7, 0x1, 0x4e8c, 0x1, 0x591a, 0x1, 0x89e3, 0x1, 0x5929, 0x1, 0x4ea4, 0x1],
  [0x6620, 0x1, 0x7121, 0x1, 0x6599, 0x1, 0x524d, 0x1, 0x5f8c, 0x1, 0x518d, 0x1, 0x65b0, 0x1],
  [0x521d, 0x1, 0x7d42, 0x1, 0x751f, 0x1, 0x8ca9, 0x1, 0x58f0, 0x1, 0x5439, 0x1, 0x6f14, 0x1],
  [0x6295, 0x1, 0x6355, 0x1, 0x4e00, 0x1, 0x4e09, 0x1, 0x904a, 0x1, 0x5de6, 0x1, 0x4e2d, 0x1],
  [0x53f3, 0x1, 0x6307, 0x1, 0x8d70, 0x1, 0x6253, 0x1, 0x7981, 0x1, 0x7a7a, 0x1, 0x5408, 0x1],
  [0x6e80, 0x1, 0x6709, 0x1, 0x6708, 0x1, 0x7533, 0x1, 0x5272, 0x1, 0x55b6, 0x1, 0x914d, 0x15],
  [0x5f97, 0x1, 0x53ef, 0x105af, 0x4e3d, 0x1, 0x4e38, 0x1, 0x4e41, 0x1, 0x20122, 0x1, 0x4f60, 0x1],
  [0x4fae, 0x1, 0x4fbb, 0x1, 0x5002, 0x1, 0x507a, 0x1, 0x5099, 0x1, 0x50e7, 0x1, 0x50cf, 0x1],
  [0x349e, 0x1, 0x2063a, 0x1, 0x514d, 0x1, 0x5154, 0x1, 0x5164, 0x1, 0x5177, 0x1, 0x2051c, 0x1],
  [0x34b9, 0x1, 0x5167, 0x1, 0x518d, 0x1, 0x2054b, 0x1, 0x5197, 0x1, 0x51a4, 0x1, 0x4ecc, 0x1],
  [0x51ac, 0x1, 0x51b5, 0x1, 0x291df, 0x1, 0x51f5, 0x1, 0x5203, 0x1, 0x34df, 0x1, 0x523b, 0x1],
  [0x5246, 0x1, 0x5272, 0x1, 0x5277, 0x1, 0x3515, 0x1, 0x52c7, 0x1, 0x52c9, 0x1, 0x52e4, 0x1],
  [0x52fa, 0x3, 0x5317, 0x1, 0x5349, 0x1, 0x5351, 0x1, 0x535a, 0x1, 0x5373, 0x2, 0x537f, 0x2],
  [0x537f, 0x1, 0x20a2c, 0x1, 0x7070, 0x1, 0x53ca, 0x1, 0x53df, 0x1, 0x20b63, 0x1, 0x53eb, 0x1],
  [0x53f1, 0x1, 0x5406, 0x1, 0x549e, 0x1, 0x5438, 0x1, 0x5448, 0x1, 0x5468, 0x1, 0x54a2, 0x1],
  [0x54f6, 0x1, 0x5510, 0x1, 0x5553, 0x1, 0x5563, 0x1, 0x5584, 0x1, 0x5584, 0x1, 0x5599, 0x1],
  [0x55ab, 0x1, 0x55b3, 0x1, 0x55c2, 0x1, 0x5716, 0x1, 0x5606, 0x1, 0x5717, 0x1, 0x5651, 0x1],
  [0x5674, 0x1, 0x5207, 0x1, 0x58ee, 0x1, 0x57ce, 0x1, 0x57f4, 0x1, 0x580d, 0x1, 0x578b, 0x1],
  [0x5832, 0x1, 0x5831, 0x1, 0x58ac, 0x1, 0x214e4, 0x1, 0x58f2, 0x1, 0x58f7, 0x1, 0x5906, 0x1],
  [0x591a, 0x1, 0x5922, 0x1, 0x5962, 0x1, 0x216a8, 0x1, 0x216ea, 0x1, 0x59ec, 0x1, 0x5a1b, 0x1],
  [0x5a27, 0x1, 0x59d8, 0x1, 0x5a66, 0x1, 0x36ee, 0x1, 0x36fc, 0x1, 0x5b08, 0x1, 0x5b3e, 0x1],
  [0x5b3e, 0x1, 0x219c8, 0x1, 0x5bc3, 0x1, 0x5bd8, 0x1, 0x5be7, 0x1, 0x5bf3, 0x1, 0x21b18, 0x1],
  [0x5bff, 0x1, 0x5c06, 0x1, 0x5f53, 0x1, 0x5c22, 0x1, 0x3781, 0x1, 0x5c60, 0x1, 0x5c6e, 0x1],
  [0x5cc0, 0x1, 0x5c8d, 0x2, 0x5d43, 0x2, 0x5d6e, 0x1, 0x5d6b, 0x1, 0x5d7c, 0x3, 0x382f, 0x1],
  [0x5dfd, 0x1, 0x5e28, 0x1, 0x5e3d, 0x1, 0x5e69, 0x1, 0x3862, 0x1, 0x22183, 0x1, 0x387c, 0x1],
  [0x5eb0, 0x1, 0x5eb3, 0x1, 0x5eb6, 0x1, 0x5eca, 0x1, 0x2a392, 0x1, 0x5efe, 0x1, 0x22331, 0x1],
  [0x22331, 0x1, 0x8201, 0x1, 0x5f22, 0x1, 0x5f22, 0x1, 0x38c7, 0x1, 0x232b8, 0x1, 0x261da, 0x1],
  [0x5f62, 0x1, 0x5f6b, 0x1, 0x38e3, 0x1, 0x5f9a, 0x1, 0x5fcd, 0x1, 0x5fd7, 0x1, 0x5ff9, 0x1],
  [0x6081, 0x1, 0x393a, 0x1, 0x391c, 0x1, 0x6094, 0x1, 0x226d4, 0x1, 0x60c7, 0x1, 0x6148, 0x1],
  [0x614c, 0x1, 0x614e, 0x1, 0x614c, 0x1, 0x617a, 0x1, 0x618e, 0x1, 0x61b2, 0x1, 0x61a4, 0x1],
  [0x61af, 0x1, 0x61de, 0x1, 0x61f2, 0x1, 0x61f6, 0x1, 0x6210, 0x1, 0x621b, 0x1, 0x625d, 0x1],
  [0x62b1, 0x1, 0x62d4, 0x1, 0x6350, 0x1, 0x22b0c, 0x1, 0x633d, 0x1, 0x62fc, 0x1, 0x6368, 0x1],
  [0x6383, 0x1, 0x63e4, 0x1, 0x22bf1, 0x1, 0x6422, 0x1, 0x63c5, 0x1, 0x63a9, 0x1, 0x3a2e, 0x1],
  [0x6469, 0x1, 0x647e, 0x1, 0x649d, 0x1, 0x6477, 0x1, 0x3a6c, 0x1, 0x654f, 0x1, 0x656c, 0x1],
  [0x2300a, 0x1, 0x65e3, 0x1, 0x66f8, 0x1, 0x6649, 0x1, 0x3b19, 0x1, 0x6691, 0x1, 0x3b08, 0x1],
  [0x3ae4, 0x1, 0x5192, 0x1, 0x5195, 0x1, 0x6700, 0x1, 0x669c, 0x1, 0x80ad, 0x1, 0x43d9, 0x1],
  [0x6717, 0x1, 0x671b, 0x1, 0x6721, 0x1, 0x675e, 0x1, 0x6753, 0x1, 0x233c3, 0x1, 0x3b49, 0x1],
  [0x67fa, 0x1, 0x6785, 0x1, 0x6852, 0x1, 0x6885, 0x1, 0x2346d, 0x1, 0x688e, 0x1, 0x681f, 0x1],
  [0x6914, 0x1, 0x3b9d, 0x1, 0x6942, 0x1, 0x69a3, 0x1, 0x69ea, 0x1, 0x6aa8, 0x1, 0x236a3, 0x1],
  [0x6adb, 0x1, 0x3c18, 0x1, 0x6b21, 0x1, 0x238a7, 0x1, 0x6b54, 0x1, 0x3c4e, 0x1, 0x6b72, 0x1],
  [0x6b9f, 0x3, 0x23a8d, 0x1, 0x21d0b, 0x1, 0x23afa, 0x1, 0x6c4e, 0x1, 0x23cbc, 0x1, 0x6cbf, 0x1],
  [0x6ccd, 0x1, 0x6c67, 0x1, 0x6d16, 0x1, 0x6d3e, 0x1, 0x6d77, 0x1, 0x6d41, 0x1, 0x6d69, 0x1],
  [0x6d78, 0x1, 0x6d85, 0x1, 0x23d1e, 0x1, 0x6d34, 0x1, 0x6e2f, 0x1, 0x6e6e, 0x1, 0x3d33, 0x1],
  [0x6ecb, 0x1, 0x6ec7, 0x1, 0x23ed1, 0x1, 0x6df9, 0x1, 0x6f6e, 0x1, 0x23f5e, 0x1, 0x23f8e, 0x1],
  [0x6fc6, 0x1, 0x7039, 0x1, 0x701e, 0x1, 0x701b, 0x1, 0x3d96, 0x1, 0x704a, 0x1, 0x707d, 0x1],
  [0x7077, 0x1, 0x70ad, 0x1, 0x20525, 0x1, 0x7145, 0x1, 0x24263, 0x1, 0x719c, 0x1, 0x243ab, 0x1],
  [0x7228, 0x1, 0x7235, 0x1, 0x7250, 0x1, 0x24608, 0x1, 0x7280, 0x1, 0x7295, 0x1, 0x24735, 0x1],
  [0x24814, 0x1, 0x737a, 0x1, 0x738b, 0x1, 0x3eac, 0x1, 0x73a5, 0x1, 0x3eb8, 0x1, 0x3eb8, 0x1],
  [0x7447, 0x1, 0x745c, 0x1, 0x7471, 0x1, 0x7485, 0x1, 0x74ca, 0x1, 0x3f1b, 0x1, 0x7524, 0x1],
  [0x24c36, 0x1, 0x753e, 0x1, 0x24c92, 0x1, 0x7570, 0x1, 0x2219f, 0x1, 0x7610, 0x1, 0x24fa1, 0x1],
  [0x24fb8, 0x1, 0x25044, 0x1, 0x3ffc, 0x1, 0x4008, 0x1, 0x76f4, 0x1, 0x250f3, 0x1, 0x250f2, 0x1],
  [0x25119, 0x1, 0x25133, 0x3, 0x771f, 0x1, 0x774a, 0x1, 0x4039, 0x1, 0x778b, 0x1, 0x4046, 0x1],
  [0x4096, 0x1, 0x2541d, 0x1, 0x784e, 0x1, 0x788c, 0x1, 0x78cc, 0x1, 0x40e3, 0x1, 0x25626, 0x1],
  [0x7956, 0x1, 0x2569a, 0x1, 0x256c5, 0x1, 0x798f, 0x1, 0x79eb, 0x1, 0x412f, 0x1, 0x7a40, 0x1],
  [0x7a4a, 0x1, 0x7a4f, 0x1, 0x2597c, 0x1, 0x25aa7, 0x1, 0x25aa7, 0x1, 0x7aee, 0x1, 0x4202, 0x1],
  [0x25bab, 0x1, 0x7bc6, 0x1, 0x7bc9, 0x1, 0x4227, 0x1, 0x25c80, 0x1, 0x7cd2, 0x1, 0x42a0, 0x1],
  [0x7ce8, 0x1, 0x7ce3, 0x1, 0x7d00, 0x1, 0x25f86, 0x1, 0x7d63, 0x1, 0x4301, 0x1, 0x7dc7, 0x1],
  [0x7e02, 0x1, 0x7e45, 0x1, 0x4334, 0x1, 0x26228, 0x1, 0x26247, 0x1, 0x4359, 0x1, 0x262d9, 0x1],
  [0x7f7a, 0x1, 0x2633e, 0x1, 0x7f95, 0x1, 0x7ffa, 0x1, 0x8005, 0x1, 0x264da, 0x1, 0x26523, 0x1],
  [0x8060, 0x1, 0x265a8, 0x1, 0x8070, 0x1, 0x2335f, 0x1, 0x43d5, 0x1, 0x80b2, 0x1, 0x8103, 0x1],
  [0x440b, 0x1, 0x813e, 0x1, 0x5ab5, 0x1, 0x267a7, 0x1, 0x267b5, 0x1, 0x23393, 0x1, 0x2339c, 0x1],
  [0x8201, 0x1, 0x8204, 0x1, 0x8f9e, 0x1, 0x446b, 0x1, 0x8291, 0x1, 0x828b, 0x1, 0x829d, 0x1],
  [0x52b3, 0x1, 0x82b1, 0x1, 0x82b3, 0x1, 0x82bd, 0x1, 0x82e6, 0x1, 0x26b3c, 0x1, 0x82e5, 0x1],
  [0x831d, 0x1, 0x8363, 0x1, 0x83ad, 0x1, 0x8323, 0x1, 0x83bd, 0x1, 0x83e7, 0x1, 0x8457, 0x1],
  [0x8353, 0x1, 0x83ca, 0x1, 0x83cc, 0x1, 0x83dc, 0x1, 0x26c36, 0x1, 0x26d6b, 0x1, 0x26cd5, 0x1],
  [0x452b, 0x1, 0x84f1, 0x1, 0x84f3, 0x1, 0x8516, 0x1, 0x273ca, 0x1, 0x8564, 0x1, 0x26f2c, 0x1],
  [0x455d, 0x1, 0x4561, 0x1, 0x26fb1, 0x1, 0x270d2, 0x1, 0x456b, 0x1, 0x8650, 0x1, 0x865c, 0x1],
  [0x8667, 0x1, 0x8669, 0x1, 0x86a9, 0x1, 0x8688, 0x1, 0x870e, 0x1, 0x86e2, 0x1, 0x8779, 0x1],
  [0x8728, 0x1, 0x876b, 0x1, 0x8786, 0x1, 0x45d7, 0x1, 0x87e1, 0x1, 0x8801, 0x1, 0x45f9, 0x1],
  [0x8860, 0x1, 0x8863, 0x1, 0x27667, 0x1, 0x88d7, 0x1, 0x88de, 0x1, 0x4635, 0x1, 0x88fa, 0x1],
  [0x34bb, 0x1, 0x278ae, 0x1, 0x27966, 0x1, 0x46be, 0x1, 0x46c7, 0x1, 0x8aa0, 0x1, 0x8aed, 0x1],
  [0x8b8a, 0x1, 0x8c55, 0x1, 0x27ca8, 0x1, 0x8cab, 0x1, 0x8cc1, 0x1, 0x8d1b, 0x1, 0x8d77, 0x1],
  [0x27f2f, 0x1, 0x20804, 0x1, 0x8dcb, 0x1, 0x8dbc, 0x1, 0x8df0, 0x1, 0x208de, 0x1, 0x8ed4, 0x1],
  [0x8f38, 0x1, 0x285d2, 0x1, 0x285ed, 0x1, 0x9094, 0x1, 0x90f1, 0x1, 0x9111, 0x1, 0x2872e, 0x1],
  [0x911b, 0x1, 0x9238, 0x3, 0x927c, 0x1, 0x93f9, 0x1, 0x9415, 0x1, 0x28bfa, 0x1, 0x958b, 0x1],
  [0x4995, 0x1, 0x95b7, 0x1, 0x28d77, 0x1, 0x49e6, 0x1, 0x96c3, 0x1, 0x5db2, 0x1, 0x9723, 0x1],
  [0x29145, 0x1, 0x2921a, 0x1, 0x4a6e, 0x1, 0x4a76, 0x1, 0x97e0, 0x1, 0x2940a, 0x1, 0x4ab2, 0x1],
  [0x29496, 0x1, 0x980b, 0x1, 0x980b, 0x1, 0x9829, 0x1, 0x295b6, 0x1, 0x98e2, 0x1, 0x4b33, 0x1],
  [0x9929, 0x1, 0x99a7, 0x1, 0x99c2, 0x1, 0x99fe, 0x1, 0x4bce, 0x1, 0x29b30, 0x1, 0x9b12, 0x1],
  [0x9c40, 0x1, 0x9cfd, 0x1, 0x4cce, 0x1, 0x4ced, 0x1, 0x9d67, 0x1, 0x2a0ce, 0x1, 0x4cf8, 0x1],
  [0x2a105, 0x1, 0x2a20e, 0x1, 0x2a291, 0x1, 0x9ebb, 0x1, 0x4d56, 0x1, 0x9ef9, 0x1, 0x9efe, 0x1],
  [0x9f05, 0x1, 0x9f0f, 0x1, 0x9f16, 0x1, 0x9f3b, 0x1, 0x2a600]]

/-- Characters, the number of characters that each becomes, and these. -/
def expansionsRows : List (List Nat) := [
  [0xa8, 0x2, 0x20, 0x308, 0x7, 0x2, 0x20, 0x304, 0x5, 0x2, 0x20, 0x301, 0x4, 0x2, 0x20, 0x327],
  [0x4, 0x3, 0x31, 0x2044, 0x34, 0x1, 0x3, 0x31, 0x2044, 0x32, 0x1, 0x3, 0x33, 0x2044, 0x34, 0x72],
  [0x2, 0x69, 0x307, 0x2, 0x2, 0x69, 0x6a, 0x1, 0x2, 0x69, 0x6a, 0xc, 0x2, 0x6c, 0xb7, 0x1, 0x2],
  [0x6c, 0xb7, 0x9, 0x2, 0x2bc, 0x6e, 0x7b, 0x2, 0x64, 0x17e, 0x1, 0x2, 0x64, 0x17e, 0x1, 0x2],
  [0x64, 0x17e, 0x1, 0x2, 0x6c, 0x6a, 0x1, 0x2, 0x6c, 0x6a, 0x1, 0x2, 0x6c, 0x6a, 0x1, 0x2, 0x6e],
  [0x6a, 0x1, 0x2, 0x6e, 0x6a, 0x1, 0x2, 0x6e, 0x6a, 0x25, 0x2, 0x64, 0x7a, 0x1, 0x2, 0x64, 0x7a],
  [0x1, 0x2, 0x64, 0x7a, 0xe5, 0x2, 0x20, 0x306, 0x1, 0x2, 0x20, 0x307, 0x1, 0x2, 0x20, 0x30a, 0x1],
  [0x2, 0x20, 0x328, 0x1, 0x2, 0x20, 0x303, 0x1, 0x2, 0x20, 0x30b, 0x67, 0x2, 0x308, 0x301, 0x36],
  [0x2, 0x20, 0x3b9, 0xa, 0x2, 0x20, 0x301, 0x1, 0x3, 0x20, 0x308, 0x301, 0x202, 0x2, 0x565, 0x582],
  [0xee, 0x2, 0x627, 0x674, 0x1, 0x2, 0x648, 0x674, 0x1, 0x2, 0x6c7, 0x674, 0x1, 0x2, 0x64a, 0x674],
  [0x2e0, 0x2, 0x915, 0x93c, 0x1, 0x2, 0x916, 0x93c, 0x1, 0x2, 0x917, 0x93c, 0x1, 0x2, 0x91c],
  [0x93c, 0x1, 0x2, 0x921, 0x93c, 0x1, 0x2, 0x922, 0x93c, 0x1, 0x2, 0x92b, 0x93c, 0x1, 0x2, 0x92f],
  [0x93c, 0x7d, 0x2, 0x9a1, 0x9bc, 0x1, 0x2, 0x9a2, 0x9bc, 0x2, 0x2, 0x9af, 0x9bc, 0x54, 0x2],
  [0xa32, 0xa3c, 0x3, 0x2, 0xa38, 0xa3c, 0x23, 0x2, 0xa16, 0xa3c, 0x1, 0x2, 0xa17, 0xa3c, 0x1, 0x2],
  [0xa1c, 0xa3c, 0x3, 0x2, 0xa2b, 0xa3c, 0xfe, 0x2, 0xb21, 0xb3c, 0x1, 0x2, 0xb22, 0xb3c, 0x2d6],
  [0x2, 0xe4d, 0xe32, 0x80, 0x2, 0xecd, 0xeb2, 0x29, 0x2, 0xeab, 0xe99, 0x1, 0x2, 0xeab, 0xea1],
  [0x66, 0x2, 0xf42, 0xfb7, 0xa, 0x2, 0xf4c, 0xfb7, 0x5, 0x2, 0xf51, 0xfb7, 0x5, 0x2, 0xf56, 0xfb7],
  [0x5, 0x2, 0xf5b, 0xfb7, 0xd, 0x2, 0xf40, 0xfb5, 0xa, 0x2, 0xf71, 0xf72, 0x2, 0x2, 0xf71, 0xf74],
  [0x1, 0x2, 0xfb2, 0xf80, 0x1, 0x3, 0xfb2, 0xf71, 0xf80, 0x1, 0x2, 0xfb3, 0xf80, 0x1, 0x3, 0xfb3],
  [0xf71, 0xf80, 0x8, 0x2, 0xf71, 0xf80, 0x12, 0x2, 0xf92, 0xfb7, 0xa, 0x2, 0xf9c, 0xfb7, 0x5, 0x2],
  [0xfa1, 0xfb7, 0x5, 0x2, 0xfa6, 0xfb7, 0x5, 0x2, 0xfab, 0xfb7, 0xd, 0x2, 0xf90, 0xfb5, 0xee1],
  [0x2, 0x61, 0x2be, 0xe6, 0x2, 0x1f00, 0x3b9, 0x1, 0x2, 0x1f01, 0x3b9, 0x1, 0x2, 0x1f02, 0x3b9],
  [0x1, 0x2, 0x1f03, 0x3b9, 0x1, 0x2, 0x1f04, 0x3b9, 0x1, 0x2, 0x1f05, 0x3b9, 0x1, 0x2, 0x1f06],
  [0x3b9, 0x1, 0x2, 0x1f07, 0x3b9, 0x1, 0x2, 0x1f00, 0x3b9, 0x1, 0x2, 0x1f01, 0x3b9, 0x1, 0x2],
  [0x1f02, 0x3b9, 0x1, 0x2, 0x1f03, 0x3b9, 0x1, 0x2, 0x1f04, 0x3b9, 0x1, 0x2, 0x1f05, 0x3b9, 0x1],
  [0x2, 0x1f06, 0x3b9, 0x1, 0x2, 0x1f07, 0x3b9, 0x1, 0x2, 0x1f20, 0x3b9, 0x1, 0x2, 0x1f21, 0x3b9],
  [0x1, 0x2, 0x1f22, 0x3b9, 0x1, 0x2, 0x1f23, 0x3b9, 0x1, 0x2, 0x1f24, 0x3b9, 0x1, 0x2, 0x1f25],
  [0x3b9, 0x1, 0x2, 0x1f26, 0x3b9, 0x1, 0x2, 0x1f27, 0x3b9, 0x1, 0x2, 0x1f20, 0x3b9, 0x1, 0x2],
  [0x1f21, 0x3b9, 0x1, 0x2, 0x1f22, 0x3b9, 0x1, 0x2, 0x1f23, 0x3b9, 0x1, 0x2, 0x1f24, 0x3b9, 0x1],
  [0x2, 0x1f25, 0x3b9, 0x1, 0x2, 0x1f26, 0x3b9, 0x1, 0x2, 0x1f27, 0x3b9, 0x1, 0x2, 0x1f60, 0x3b9],
  [0x1, 0x2, 0x1f61, 0x3b9, 0x1, 0x2, 0x1f62, 0x3b9, 0x1, 0x2, 0x1f63, 0x3b9, 0x1, 0x2, 0x1f64],
  [0x3b9, 0x1, 0x2, 0x1f65, 0x3b9, 0x1, 0x2, 0x1f66, 0x3b9, 0x1, 0x2, 0x1f67, 0x3b9, 0x1, 0x2],
  [0x1f60, 0x3b9, 0x1, 0x2, 0x1f61, 0x3b9, 0x1, 0x2, 0x1f62, 0x3b9, 0x1, 0x2, 0x1f63, 0x3b9, 0x1],
  [0x2, 0x1f64, 0x3b9, 0x1, 0x2, 0x1f65, 0x3b9, 0x1, 0x2, 0x1f66, 0x3b9, 0x1, 0x2, 0x1f67, 0x3b9],
  [0x3, 0x2, 0x1f70, 0x3b9, 0x1, 0x2, 0x3b1, 0x3b9, 0x1, 0x2, 0x3ac, 0x3b9, 0x3, 0x2, 0x1fb6],
  [0x3b9, 0x5, 0x2, 0x3b1, 0x3b9, 0x1, 0x2, 0x20, 0x313, 0x2, 0x2, 0x20, 0x313, 0x1, 0x2, 0x20],
  [0x342, 0x1, 0x3, 0x20, 0x308, 0x342, 0x1, 0x2, 0x1f74, 0x3b9, 0x1, 0x2, 0x3b7, 0x3b9, 0x1, 0x2],
  [0x3ae, 0x3b9, 0x3, 0x2, 0x1fc6, 0x3b9, 0x5, 0x2, 0x3b7, 0x3b9, 0x1, 0x3, 0x20, 0x313, 0x300],
  [0x1, 0x3, 0x20, 0x313, 0x301, 0x1, 0x3, 0x20, 0x313, 0x342, 0xe, 0x3, 0x20, 0x314, 0x300, 0x1],
  [0x3, 0x20, 0x314, 0x301, 0x1, 0x3, 0x20, 0x314, 0x342, 0xe, 0x3, 0x20, 0x308, 0x300, 0x1, 0x3],
  [0x20, 0x308, 0x301, 0x4, 0x2, 0x1f7c, 0x3b9, 0x1, 0x2, 0x3c9, 0x3b9, 0x1, 0x2, 0x3ce, 0x3b9],
  [0x3, 0x2, 0x1ff6, 0x3b9, 0x5, 0x2, 0x3c9, 0x3b9, 0x1, 0x2, 0x20, 0x301, 0x1, 0x2, 0x20, 0x314],
  [0x19, 0x2, 0x20, 0x333, 0x1c, 0x2, 0x2032, 0x2032, 0x1, 0x3, 0x2032, 0x2032, 0x2032, 0x2, 0x2],
  [0x2035, 0x2035, 0x1, 0x3, 0x2035, 0x2035, 0x2035, 0x5, 0x2, 0x21, 0x21, 0x2, 0x2, 0x20, 0x305],
  [0x9, 0x2, 0x3f, 0x3f, 0x1, 0x2, 0x3f, 0x21, 0x1, 0x2, 0x21, 0x3f, 0xe, 0x4, 0x2032, 0x2032],
  [0x2032, 0x2032, 0x51, 0x2, 0x72, 0x73, 0x58, 0x3, 0x61, 0x2f, 0x63, 0x1, 0x3, 0x61, 0x2f, 0x73],
  [0x2, 0x2, 0xb0, 0x63, 0x2, 0x3, 0x63, 0x2f, 0x6f, 0x1, 0x3, 0x63, 0x2f, 0x75, 0x3, 0x2, 0xb0],
  [0x66, 0xd, 0x2, 0x6e, 0x6f, 0xa, 0x2, 0x73, 0x6d, 0x1, 0x3, 0x74, 0x65, 0x6c, 0x1, 0x2, 0x74],
  [0x6d, 0x19, 0x3, 0x66, 0x61, 0x78, 0x15, 0x3, 0x31, 0x2044, 0x37, 0x1, 0x3, 0x31, 0x2044, 0x39],
  [0x1, 0x4, 0x31, 0x2044, 0x31, 0x30, 0x1, 0x3, 0x31, 0x2044, 0x33, 0x1, 0x3, 0x32, 0x2044, 0x33],
  [0x1, 0x3, 0x31, 0x2044, 0x35, 0x1, 0x3, 0x32, 0x2044, 0x35, 0x1, 0x3, 0x33, 0x2044, 0x35, 0x1],
  [0x3, 0x34, 0x2044, 0x35, 0x1, 0x3, 0x31, 0x2044, 0x36, 0x1, 0x3, 0x35, 0x2044, 0x36, 0x1, 0x3],
  [0x31, 0x2044, 0x38, 0x1, 0x3, 0x33, 0x2044, 0x38, 0x1, 0x3, 0x35, 0x2044, 0x38, 0x1, 0x3, 0x37],
  [0x2044, 0x38, 0x1, 0x2, 0x31, 0x2044, 0x2, 0x2, 0x69, 0x69, 0x1, 0x3, 0x69, 0x69, 0x69, 0x1],
  [0x2, 0x69, 0x76, 0x2, 0x2, 0x76, 0x69, 0x1, 0x3, 0x76, 0x69, 0x69, 0x1, 0x4, 0x76, 0x69, 0x69],
  [0x69, 0x1, 0x2, 0x69, 0x78, 0x2, 0x2, 0x78, 0x69, 0x1, 0x3, 0x78, 0x69, 0x69, 0x6, 0x2, 0x69],
  [0x69, 0x1, 0x3, 0x69, 0x69, 0x69, 0x1, 0x2, 0x69, 0x76, 0x2, 0x2, 0x76, 0x69, 0x1, 0x3, 0x76],
  [0x69, 0x69, 0x1, 0x4, 0x76, 0x69, 0x69, 0x69, 0x1, 0x2, 0x69, 0x78, 0x2, 0x2, 0x78, 0x69, 0x1],
  [0x3, 0x78, 0x69, 0x69, 0xe, 0x3, 0x30, 0x2044, 0x33, 0xa3, 0x2, 0x222b, 0x222b, 0x1, 0x3],
  [0x222b, 0x222b, 0x222b, 0x2, 0x2, 0x222e, 0x222e, 0x1, 0x3, 0x222e, 0x222e, 0x222e, 0x239, 0x2],
  [0x31, 0x30, 0x1, 0x2, 0x31, 0x31, 0x1, 0x2, 0x31, 0x32, 0x1, 0x2, 0x31, 0x33, 0x1, 0x2, 0x31],
  [0x34, 0x1, 0x2, 0x31, 0x35, 0x1, 0x2, 0x31, 0x36, 0x1, 0x2, 0x31, 0x37, 0x1, 0x2, 0x31, 0x38],
  [0x1, 0x2, 0x31, 0x39, 0x1, 0x2, 0x32, 0x30, 0x1, 0x3, 0x28, 0x31, 0x29, 0x1, 0x3, 0x28, 0x32],
  [0x29, 0x1, 0x3, 0x28, 0x33, 0x29, 0x1, 0x3, 0x28, 0x34, 0x29, 0x1, 0x3, 0x28, 0x35, 0x29, 0x1],
  [0x3, 0x28, 0x36, 0x29, 0x1, 0x3, 0x28, 0x37, 0x29, 0x1, 0x3, 0x28, 0x38, 0x29, 0x1, 0x3, 0x28],
  [0x39, 0x29, 0x1, 0x4, 0x28, 0x31, 0x30, 0x29, 0x1, 0x4, 0x28, 0x31, 0x31, 0x29, 0x1, 0x4, 0x28],
  [0x31, 0x32, 0x29, 0x1, 0x4, 0x28, 0x31, 0x33, 0x29, 0x1, 0x4, 0x28, 0x31, 0x34, 0x29, 0x1, 0x4],
  [0x28, 0x31, 0x35, 0x29, 0x1, 0x4, 0x28, 0x31, 0x36, 0x29, 0x1, 0x4, 0x28, 0x31, 0x37, 0x29, 0x1],
  [0x4, 0x28, 0x31, 0x38, 0x29, 0x1, 0x4, 0x28, 0x31, 0x39, 0x29, 0x1, 0x4, 0x28, 0x32, 0x30, 0x29],
  [0x15, 0x3, 0x28, 0x61, 0x29, 0x1, 0x3, 0x28, 0x62, 0x29, 0x1, 0x3, 0x28, 0x63, 0x29, 0x1, 0x3],
  [0x28, 0x64, 0x29, 0x1, 0x3, 0x28, 0x65, 0x29, 0x1, 0x3, 0x28, 0x66, 0x29, 0x1, 0x3, 0x28, 0x67],
  [0x29, 0x1, 0x3, 0x28, 0x68, 0x29, 0x1, 0x3, 0x28, 0x69, 0x29, 0x1, 0x3, 0x28, 0x6a, 0x29, 0x1],
  [0x3, 0x28, 0x6b, 0x29, 0x1, 0x3, 0x28, 0x6c, 0x29, 0x1, 0x3, 0x28, 0x6d, 0x29, 0x1, 0x3, 0x28],
  [0x6e, 0x29, 0x1, 0x3, 0x28, 0x6f, 0x29, 0x1, 0x3, 0x28, 0x70, 0x29, 0x1, 0x3, 0x28, 0x71, 0x29],
  [0x1, 0x3, 0x28, 0x72, 0x29, 0x1, 0x3, 0x28, 0x73, 0x29, 0x1, 0x3, 0x28, 0x74, 0x29, 0x1, 0x3],
  [0x28, 0x75, 0x29, 0x1, 0x3, 0x28, 0x76, 0x29, 0x1, 0x3, 0x28, 0x77, 0x29, 0x1, 0x3, 0x28, 0x78],
  [0x29, 0x1, 0x3, 0x28, 0x79, 0x29, 0x1, 0x3, 0x28, 0x7a, 0x29, 0x557, 0x4, 0x222b, 0x222b],
  [0x222b, 0x222b, 0x68, 0x3, 0x3a, 0x3a, 0x3d, 0x1, 0x2, 0x3d, 0x3d, 0x1, 0x3, 0x3d, 0x3d, 0x3d],
  [0x66, 0x2, 0x2add, 0x338, 0x5bf, 0x2, 0x20, 0x3099, 0x1, 0x2, 0x20, 0x309a, 0x3, 0x2, 0x3088],
  [0x308a, 0x60, 0x2, 0x30b3, 0x30c8, 0x101, 0x3, 0x28, 0x1100, 0x29, 0x1, 0x3, 0x28, 0x1102, 0x29],
  [0x1, 0x3, 0x28, 0x1103, 0x29, 0x1, 0x3, 0x28, 0x1105, 0x29, 0x1, 0x3, 0x28, 0x1106, 0x29, 0x1],
  [0x3, 0x28, 0x1107, 0x29, 0x1, 0x3, 0x28, 0x1109, 0x29, 0x1, 0x3, 0x28, 0x110b, 0x29, 0x1, 0x3],
  [0x28, 0x110c, 0x29, 0x1, 0x3, 0x28, 0x110e, 0x29, 0x1, 0x3, 0x28, 0x110f, 0x29, 0x1, 0x3, 0x28],
  [0x1110, 0x29, 0x1, 0x3, 0x28, 0x1111, 0x29, 0x1, 0x3, 0x28, 0x1112, 0x29, 0x1, 0x3, 0x28],
  [0xac00, 0x29, 0x1, 0x3, 0x28, 0xb098, 0x29, 0x1, 0x3, 0x28, 0xb2e4, 0x29, 0x1, 0x3, 0x28],
  [0xb77c, 0x29, 0x1, 0x3, 0x28, 0xb9c8, 0x29, 0x1, 0x3, 0x28, 0xbc14, 0x29, 0x1, 0x3, 0x28],
  [0xc0ac, 0x29, 0x1, 0x3, 0x28, 0xc544, 0x29, 0x1, 0x3, 0x28, 0xc790, 0x29, 0x1, 0x3, 0x28],
  [0xcc28, 0x29, 0x1, 0x3, 0x28, 0xce74, 0x29, 0x1, 0x3, 0x28, 0xd0c0, 0x29, 0x1, 0x3, 0x28],
  [0xd30c, 0x29, 0x1, 0x3, 0x28, 0xd558, 0x29, 0x1, 0x3, 0x28, 0xc8fc, 0x29, 0x1, 0x4, 0x28],
  [0xc624, 0xc804, 0x29, 0x1, 0x4, 0x28, 0xc624, 0xd6c4, 0x29, 0x2, 0x3, 0x28, 0x4e00, 0x29, 0x1],
  [0x3, 0x28, 0x4e8c, 0x29, 0x1, 0x3, 0x28, 0x4e09, 0x29, 0x1, 0x3, 0x28, 0x56db, 0x29, 0x1, 0x3],
  [0x28, 0x4e94, 0x29, 0x1, 0x3, 0x28, 0x516d, 0x29, 0x1, 0x3, 0x28, 0x4e03, 0x29, 0x1, 0x3, 0x28],
  [0x516b, 0x29, 0x1, 0x3, 0x28, 0x4e5d, 0x29, 0x1, 0x3, 0x28, 0x5341, 0x29, 0x1, 0x3, 0x28],
  [0x6708, 0x29, 0x1, 0x3, 0x28, 0x706b, 0x29, 0x1, 0x3, 0x28, 0x6c34, 0x29, 0x1, 0x3, 0x28],
  [0x6728, 0x29, 0x1, 0x3, 0x28, 0x91d1, 0x29, 0x1, 0x3, 0x28, 0x571f, 0x29, 0x1, 0x3, 0x28],
  [0x65e5, 0x29, 0x1, 0x3, 0x28, 0x682a, 0x29, 0x1, 0x3, 0x28, 0x6709, 0x29, 0x1, 0x3, 0x28],
  [0x793e, 0x29, 0x1, 0x3, 0x28, 0x540d, 0x29, 0x1, 0x3, 0x28, 0x7279, 0x29, 0x1, 0x3, 0x28],
  [0x8ca1, 0x29, 0x1, 0x3, 0x28, 0x795d, 0x29, 0x1, 0x3, 0x28, 0x52b4, 0x29, 0x1, 0x3, 0x28],
  [0x4ee3, 0x29, 0x1, 0x3, 0x28, 0x547c, 0x29, 0x1, 0x3, 0x28, 0x5b66, 0x29, 0x1, 0x3, 0x28],
  [0x76e3, 0x29, 0x1, 0x3, 0x28, 0x4f01, 0x29, 0x1, 0x3, 0x28, 0x8cc7, 0x29, 0x1, 0x3, 0x28],
  [0x5354, 0x29, 0x1, 0x3, 0x28, 0x796d, 0x29, 0x1, 0x3, 0x28, 0x4f11, 0x29, 0x1, 0x3, 0x28],
  [0x81ea, 0x29, 0x1, 0x3, 0x28, 0x81f3, 0x29, 0xd, 0x3, 0x70, 0x74, 0x65, 0x1, 0x2, 0x32, 0x31],
  [0x1, 0x2, 0x32, 0x32, 0x1, 0x2, 0x32, 0x33, 0x1, 0x2, 0x32, 0x34, 0x1, 0x2, 0x32, 0x35, 0x1],
  [0x2, 0x32, 0x36, 0x1, 0x2, 0x32, 0x37, 0x1, 0x2, 0x32, 0x38, 0x1, 0x2, 0x32, 0x39, 0x1, 0x2],
  [0x33, 0x30, 0x1, 0x2, 0x33, 0x31, 0x1, 0x2, 0x33, 0x32, 0x1, 0x2, 0x33, 0x33, 0x1, 0x2, 0x33],
  [0x34, 0x1, 0x2, 0x33, 0x35, 0x1d, 0x2, 0xcc38, 0xace0, 0x1, 0x2, 0xc8fc, 0xc758, 0x34, 0x2],
  [0x33, 0x36, 0x1, 0x2, 0x33, 0x37, 0x1, 0x2, 0x33, 0x38, 0x1, 0x2, 0x33, 0x39, 0x1, 0x2, 0x34],
  [0x30, 0x1, 0x2, 0x34, 0x31, 0x1, 0x2, 0x34, 0x32, 0x1, 0x2, 0x34, 0x33, 0x1, 0x2, 0x34, 0x34],
  [0x1, 0x2, 0x34, 0x35, 0x1, 0x2, 0x34, 0x36, 0x1, 0x2, 0x34, 0x37, 0x1, 0x2, 0x34, 0x38, 0x1],
  [0x2, 0x34, 0x39, 0x1, 0x2, 0x35, 0x30, 0x1, 0x2, 0x31, 0x6708, 0x1, 0x2, 0x32, 0x6708, 0x1, 0x2],
  [0x33, 0x6708, 0x1, 0x2, 0x34, 0x6708, 0x1, 0x2, 0x35, 0x6708, 0x1, 0x2, 0x36, 0x6708, 0x1, 0x2],
  [0x37, 0x6708, 0x1, 0x2, 0x38, 0x6708, 0x1, 0x2, 0x39, 0x6708, 0x1, 0x3, 0x31, 0x30, 0x6708, 0x1],
  [0x3, 0x31, 0x31, 0x6708, 0x1, 0x3, 0x31, 0x32, 0x6708, 0x1, 0x2, 0x68, 0x67, 0x1, 0x3, 0x65],
  [0x72, 0x67, 0x1, 0x2, 0x65, 0x76, 0x1, 0x3, 0x6c, 0x74, 0x64, 0x30, 0x2, 0x4ee4, 0x548c, 0x1],
  [0x4, 0x30a2, 0x30d1, 0x30fc, 0x30c8, 0x1, 0x4, 0x30a2, 0x30eb, 0x30d5, 0x30a1, 0x1, 0x4, 0x30a2],
  [0x30f3, 0x30da, 0x30a2, 0x1, 0x3, 0x30a2, 0x30fc, 0x30eb, 0x1, 0x4, 0x30a4, 0x30cb, 0x30f3],
  [0x30b0, 0x1, 0x3, 0x30a4, 0x30f3, 0x30c1, 0x1, 0x3, 0x30a6, 0x30a9, 0x30f3, 0x1, 0x5, 0x30a8],
  [0x30b9, 0x30af, 0x30fc, 0x30c9, 0x1, 0x4, 0x30a8, 0x30fc, 0x30ab, 0x30fc, 0x1, 0x3, 0x30aa],
  [0x30f3, 0x30b9, 0x1, 0x3, 0x30aa, 0x30fc, 0x30e0, 0x1, 0x3, 0x30ab, 0x30a4, 0x30ea, 0x1, 0x4],
  [0x30ab, 0x30e9, 0x30c3, 0x30c8, 0x1, 0x4, 0x30ab, 0x30ed, 0x30ea, 0x30fc, 0x1, 0x3, 0x30ac],
  [0x30ed, 0x30f3, 0x1, 0x3, 0x30ac, 0x30f3, 0x30de, 0x1, 0x2, 0x30ae, 0x30ac, 0x1, 0x3, 0x30ae],
  [0x30cb, 0x30fc, 0x1, 0x4, 0x30ad, 0x30e5, 0x30ea, 0x30fc, 0x1, 0x4, 0x30ae, 0x30eb, 0x30c0],
  [0x30fc, 0x1, 0x2, 0x30ad, 0x30ed, 0x1, 0x5, 0x30ad, 0x30ed, 0x30b0, 0x30e9, 0x30e0, 0x1, 0x6],
  [0x30ad, 0x30ed, 0x30e1, 0x30fc, 0x30c8, 0x30eb, 0x1, 0x5, 0x30ad, 0x30ed, 0x30ef, 0x30c3],
  [0x30c8, 0x1, 0x3, 0x30b0, 0x30e9, 0x30e0, 0x1, 0x5, 0x30b0, 0x30e9, 0x30e0, 0x30c8, 0x30f3, 0x1],
  [0x5, 0x30af, 0x30eb, 0x30bc, 0x30a4, 0x30ed, 0x1, 0x4, 0x30af, 0x30ed, 0x30fc, 0x30cd, 0x1, 0x3],
  [0x30b1, 0x30fc, 0x30b9, 0x1, 0x3, 0x30b3, 0x30eb, 0x30ca, 0x1, 0x3, 0x30b3, 0x30fc, 0x30dd, 0x1],
  [0x4, 0x30b5, 0x30a4, 0x30af, 0x30eb, 0x1, 0x5, 0x30b5, 0x30f3, 0x30c1, 0x30fc, 0x30e0, 0x1, 0x4],
  [0x30b7, 0x30ea, 0x30f3, 0x30b0, 0x1, 0x3, 0x30bb, 0x30f3, 0x30c1, 0x1, 0x3, 0x30bb, 0x30f3],
  [0x30c8, 0x1, 0x3, 0x30c0, 0x30fc, 0x30b9, 0x1, 0x2, 0x30c7, 0x30b7, 0x1, 0x2, 0x30c9, 0x30eb],
  [0x1, 0x2, 0x30c8, 0x30f3, 0x1, 0x2, 0x30ca, 0x30ce, 0x1, 0x3, 0x30ce, 0x30c3, 0x30c8, 0x1, 0x3],
  [0x30cf, 0x30a4, 0x30c4, 0x1, 0x5, 0x30d1, 0x30fc, 0x30bb, 0x30f3, 0x30c8, 0x1, 0x3, 0x30d1],
  [0x30fc, 0x30c4, 0x1, 0x4, 0x30d0, 0x30fc, 0x30ec, 0x30eb, 0x1, 0x5, 0x30d4, 0x30a2, 0x30b9],
  [0x30c8, 0x30eb, 0x1, 0x3, 0x30d4, 0x30af, 0x30eb, 0x1, 0x2, 0x30d4, 0x30b3, 0x1, 0x2, 0x30d3],
  [0x30eb, 0x1, 0x5, 0x30d5, 0x30a1, 0x30e9, 0x30c3, 0x30c9, 0x1, 0x4, 0x30d5, 0x30a3, 0x30fc],
  [0x30c8, 0x1, 0x5, 0x30d6, 0x30c3, 0x30b7, 0x30a7, 0x30eb, 0x1, 0x3, 0x30d5, 0x30e9, 0x30f3, 0x1],
  [0x5, 0x30d8, 0x30af, 0x30bf, 0x30fc, 0x30eb, 0x1, 0x2, 0x30da, 0x30bd, 0x1, 0x3, 0x30da, 0x30cb],
  [0x30d2, 0x1, 0x3, 0x30d8, 0x30eb, 0x30c4, 0x1, 0x3, 0x30da, 0x30f3, 0x30b9, 0x1, 0x3, 0x30da],
  [0x30fc, 0x30b8, 0x1, 0x3, 0x30d9, 0x30fc, 0x30bf, 0x1, 0x4, 0x30dd, 0x30a4, 0x30f3, 0x30c8, 0x1],
  [0x3, 0x30dc, 0x30eb, 0x30c8, 0x1, 0x2, 0x30db, 0x30f3, 0x1, 0x3, 0x30dd, 0x30f3, 0x30c9, 0x1],
  [0x3, 0x30db, 0x30fc, 0x30eb, 0x1, 0x3, 0x30db, 0x30fc, 0x30f3, 0x1, 0x4, 0x30de, 0x30a4, 0x30af],
  [0x30ed, 0x1, 0x3, 0x30de, 0x30a4, 0x30eb, 0x1, 0x3, 0x30de, 0x30c3, 0x30cf, 0x1, 0x3, 0x30de],
  [0x30eb, 0x30af, 0x1, 0x5, 0x30de, 0x30f3, 0x30b7, 0x30e7, 0x30f3, 0x1, 0x4, 0x30df, 0x30af],
  [0x30ed, 0x30f3, 0x1, 0x2, 0x30df, 0x30ea, 0x1, 0x5, 0x30df, 0x30ea, 0x30d0, 0x30fc, 0x30eb, 0x1],
  [0x2, 0x30e1, 0x30ac, 0x1, 0x4, 0x30e1, 0x30ac, 0x30c8, 0x30f3, 0x1, 0x4, 0x30e1, 0x30fc, 0x30c8],
  [0x30eb, 0x1, 0x3, 0x30e4, 0x30fc, 0x30c9, 0x1, 0x3, 0x30e4, 0x30fc, 0x30eb, 0x1, 0x3, 0x30e6],
  [0x30a2, 0x30f3, 0x1, 0x4, 0x30ea, 0x30c3, 0x30c8, 0x30eb, 0x1, 0x2, 0x30ea, 0x30e9, 0x1, 0x3],
  [0x30eb, 0x30d4, 0x30fc, 0x1, 0x4, 0x30eb, 0x30fc, 0x30d6, 0x30eb, 0x1, 0x2, 0x30ec, 0x30e0, 0x1],
  [0x5, 0x30ec, 0x30f3, 0x30c8, 0x30b2, 0x30f3, 0x1, 0x3, 0x30ef, 0x30c3, 0x30c8, 0x1, 0x2, 0x30],
  [0x70b9, 0x1, 0x2, 0x31, 0x70b9, 0x1, 0x2, 0x32, 0x70b9, 0x1, 0x2, 0x33, 0x70b9, 0x1, 0x2, 0x34],
  [0x70b9, 0x1, 0x2, 0x35, 0x70b9, 0x1, 0x2, 0x36, 0x70b9, 0x1, 0x2, 0x37, 0x70b9, 0x1, 0x2, 0x38],
  [0x70b9, 0x1, 0x2, 0x39, 0x70b9, 0x1, 0x3, 0x31, 0x30, 0x70b9, 0x1, 0x3, 0x31, 0x31, 0x70b9, 0x1],
  [0x3, 0x31, 0x32, 0x70b9, 0x1, 0x3, 0x31, 0x33, 0x70b9, 0x1, 0x3, 0x31, 0x34, 0x70b9, 0x1, 0x3],
  [0x31, 0x35, 0x70b9, 0x1, 0x3, 0x31, 0x36, 0x70b9, 0x1, 0x3, 0x31, 0x37, 0x70b9, 0x1, 0x3, 0x31],
  [0x38, 0x70b9, 0x1, 0x3, 0x31, 0x39, 0x70b9, 0x1, 0x3, 0x32, 0x30, 0x70b9, 0x1, 0x3, 0x32, 0x31],
  [0x70b9, 0x1, 0x3, 0x32, 0x32, 0x70b9, 0x1, 0x3, 0x32, 0x33, 0x70b9, 0x1, 0x3, 0x32, 0x34],
  [0x70b9, 0x1, 0x3, 0x68, 0x70, 0x61, 0x1, 0x2, 0x64, 0x61, 0x1, 0x2, 0x61, 0x75, 0x1, 0x3, 0x62],
  [0x61, 0x72, 0x1, 0x2, 0x6f, 0x76, 0x1, 0x2, 0x70, 0x63, 0x1, 0x2, 0x64, 0x6d, 0x1, 0x3, 0x64],
  [0x6d, 0x32, 0x1, 0x3, 0x64, 0x6d, 0x33, 0x1, 0x2, 0x69, 0x75, 0x1, 0x2, 0x5e73, 0x6210, 0x1],
  [0x2, 0x662d, 0x548c, 0x1, 0x2, 0x5927, 0x6b63, 0x1, 0x2, 0x660e, 0x6cbb, 0x1, 0x4, 0x682a],
  [0x5f0f, 0x4f1a, 0x793e, 0x1, 0x2, 0x70, 0x61, 0x1, 0x2, 0x6e, 0x61, 0x1, 0x2, 0x3bc, 0x61, 0x1],
  [0x2, 0x6d, 0x61, 0x1, 0x2, 0x6b, 0x61, 0x1, 0x2, 0x6b, 0x62, 0x1, 0x2, 0x6d, 0x62, 0x1, 0x2],
  [0x67, 0x62, 0x1, 0x3, 0x63, 0x61, 0x6c, 0x1, 0x4, 0x6b, 0x63, 0x61, 0x6c, 0x1, 0x2, 0x70, 0x66],
  [0x1, 0x2, 0x6e, 0x66, 0x1, 0x2, 0x3bc, 0x66, 0x1, 0x2, 0x3bc, 0x67, 0x1, 0x2, 0x6d, 0x67, 0x1],
  [0x2, 0x6b, 0x67, 0x1, 0x2, 0x68, 0x7a, 0x1, 0x3, 0x6b, 0x68, 0x7a, 0x1, 0x3, 0x6d, 0x68, 0x7a],
  [0x1, 0x3, 0x67, 0x68, 0x7a, 0x1, 0x3, 0x74, 0x68, 0x7a, 0x1, 0x2, 0x3bc, 0x6c, 0x1, 0x2, 0x6d],
  [0x6c, 0x1, 0x2, 0x64, 0x6c, 0x1, 0x2, 0x6b, 0x6c, 0x1, 0x2, 0x66, 0x6d, 0x1, 0x2, 0x6e, 0x6d],
  [0x1, 0x2, 0x3bc, 0x6d, 0x1, 0x2, 0x6d, 0x6d, 0x1, 0x2, 0x63, 0x6d, 0x1, 0x2, 0x6b, 0x6d, 0x1],
  [0x3, 0x6d, 0x6d, 0x32, 0x1, 0x3, 0x63, 0x6d, 0x32, 0x1, 0x2, 0x6d, 0x32, 0x1, 0x3, 0x6b, 0x6d],
  [0x32, 0x1, 0x3, 0x6d, 0x6d, 0x33, 0x1, 0x3, 0x63, 0x6d, 0x33, 0x1, 0x2, 0x6d, 0x33, 0x1, 0x3],
  [0x6b, 0x6d, 0x33, 0x1, 0x3, 0x6d, 0x2215, 0x73, 0x1, 0x4, 0x6d, 0x2215, 0x73, 0x32, 0x1, 0x2],
  [0x70, 0x61, 0x1, 0x3, 0x6b, 0x70, 0x61, 0x1, 0x3, 0x6d, 0x70, 0x61, 0x1, 0x3, 0x67, 0x70, 0x61],
  [0x1, 0x3, 0x72, 0x61, 0x64, 0x1, 0x5, 0x72, 0x61, 0x64, 0x2215, 0x73, 0x1, 0x6, 0x72, 0x61],
  [0x64, 0x2215, 0x73, 0x32, 0x1, 0x2, 0x70, 0x73, 0x1, 0x2, 0x6e, 0x73, 0x1, 0x2, 0x3bc, 0x73],
  [0x1, 0x2, 0x6d, 0x73, 0x1, 0x2, 0x70, 0x76, 0x1, 0x2, 0x6e, 0x76, 0x1, 0x2, 0x3bc, 0x76, 0x1],
  [0x2, 0x6d, 0x76, 0x1, 0x2, 0x6b, 0x76, 0x1, 0x2, 0x6d, 0x76, 0x1, 0x2, 0x70, 0x77, 0x1, 0x2],
  [0x6e, 0x77, 0x1, 0x2, 0x3bc, 0x77, 0x1, 0x2, 0x6d, 0x77, 0x1, 0x2, 0x6b, 0x77, 0x1, 0x2, 0x6d],
  [0x77, 0x1, 0x2, 0x6b, 0x3c9, 0x1, 0x2, 0x6d, 0x3c9, 0x2, 0x2, 0x62, 0x71, 0x1, 0x2, 0x63, 0x63],
  [0x1, 0x2, 0x63, 0x64, 0x1, 0x4, 0x63, 0x2215, 0x6b, 0x67, 0x2, 0x2, 0x64, 0x62, 0x1, 0x2, 0x67],
  [0x79, 0x1, 0x2, 0x68, 0x61, 0x1, 0x2, 0x68, 0x70, 0x1, 0x2, 0x69, 0x6e, 0x1, 0x2, 0x6b, 0x6b],
  [0x1, 0x2, 0x6b, 0x6d, 0x1, 0x2, 0x6b, 0x74, 0x1, 0x2, 0x6c, 0x6d, 0x1, 0x2, 0x6c, 0x6e, 0x1],
  [0x3, 0x6c, 0x6f, 0x67, 0x1, 0x2, 0x6c, 0x78, 0x1, 0x2, 0x6d, 0x62, 0x1, 0x3, 0x6d, 0x69, 0x6c],
  [0x1, 0x3, 0x6d, 0x6f, 0x6c, 0x1, 0x2, 0x70, 0x68, 0x2, 0x3, 0x70, 0x70, 0x6d, 0x1, 0x2, 0x70],
  [0x72, 0x1, 0x2, 0x73, 0x72, 0x1, 0x2, 0x73, 0x76, 0x1, 0x2, 0x77, 0x62, 0x1, 0x3, 0x76, 0x2215],
  [0x6d, 0x1, 0x3, 0x61, 0x2215, 0x6d, 0x1, 0x2, 0x31, 0x65e5, 0x1, 0x2, 0x32, 0x65e5, 0x1, 0x2],
  [0x33, 0x65e5, 0x1, 0x2, 0x34, 0x65e5, 0x1, 0x2, 0x35, 0x65e5, 0x1, 0x2, 0x36, 0x65e5, 0x1, 0x2],
  [0x37, 0x65e5, 0x1, 0x2, 0x38, 0x65e5, 0x1, 0x2, 0x39, 0x65e5, 0x1, 0x3, 0x31, 0x30, 0x65e5, 0x1],
  [0x3, 0x31, 0x31, 0x65e5, 0x1, 0x3, 0x31, 0x32, 0x65e5, 0x1, 0x3, 0x31, 0x33, 0x65e5, 0x1, 0x3],
  [0x31, 0x34, 0x65e5, 0x1, 0x3, 0x31, 0x35, 0x65e5, 0x1, 0x3, 0x31, 0x36, 0x65e5, 0x1, 0x3, 0x31],
  [0x37, 0x65e5, 0x1, 0x3, 0x31, 0x38, 0x65e5, 0x1, 0x3, 0x31, 0x39, 0x65e5, 0x1, 0x3, 0x32, 0x30],
  [0x65e5, 0x1, 0x3, 0x32, 0x31, 0x65e5, 0x1, 0x3, 0x32, 0x32, 0x65e5, 0x1, 0x3, 0x32, 0x33],
  [0x65e5, 0x1, 0x3, 0x32, 0x34, 0x65e5, 0x1, 0x3, 0x32, 0x35, 0x65e5, 0x1, 0x3, 0x32, 0x36],
  [0x65e5, 0x1, 0x3, 0x32, 0x37, 0x65e5, 0x1, 0x3, 0x32, 0x38, 0x65e5, 0x1, 0x3, 0x32, 0x39],
  [0x65e5, 0x1, 0x3, 0x33, 0x30, 0x65e5, 0x1, 0x3, 0x33, 0x31, 0x65e5, 0x1, 0x3, 0x67, 0x61, 0x6c],
  [0xc701, 0x2, 0x66, 0x66, 0x1, 0x2, 0x66, 0x69, 0x1, 0x2, 0x66, 0x6c, 0x1, 0x3, 0x66, 0x66, 0x69],
  [0x1, 0x3, 0x66, 0x66, 0x6c, 0x1, 0x2, 0x73, 0x74, 0x1, 0x2, 0x73, 0x74, 0xd, 0x2, 0x574, 0x576],
  [0x1, 0x2, 0x574, 0x565, 0x1, 0x2, 0x574, 0x56b, 0x1, 0x2, 0x57e, 0x576, 0x1, 0x2, 0x574, 0x56d],
  [0x6, 0x2, 0x5d9, 0x5b4, 0x2, 0x2, 0x5f2, 0x5b7, 0xb, 0x2, 0x5e9, 0x5c1, 0x1, 0x2, 0x5e9, 0x5c2],
  [0x1, 0x3, 0x5e9, 0x5bc, 0x5c1, 0x1, 0x3, 0x5e9, 0x5bc, 0x5c2, 0x1, 0x2, 0x5d0, 0x5b7, 0x1, 0x2],
  [0x5d0, 0x5b8, 0x1, 0x2, 0x5d0, 0x5bc, 0x1, 0x2, 0x5d1, 0x5bc, 0x1, 0x2, 0x5d2, 0x5bc, 0x1, 0x2],
  [0x5d3, 0x5bc, 0x1, 0x2, 0x5d4, 0x5bc, 0x1, 0x2, 0x5d5, 0x5bc, 0x1, 0x2, 0x5d6, 0x5bc, 0x2, 0x2],
  [0x5d8, 0x5bc, 0x1, 0x2, 0x5d9, 0x5bc, 0x1, 0x2, 0x5da, 0x5bc, 0x1, 0x2, 0x5db, 0x5bc, 0x1, 0x2],
  [0x5dc, 0x5bc, 0x2, 0x2, 0x5de, 0x5bc, 0x2, 0x2, 0x5e0, 0x5bc, 0x1, 0x2, 0x5e1, 0x5bc, 0x2, 0x2],
  [0x5e3, 0x5bc, 0x1, 0x2, 0x5e4, 0x5bc, 0x2, 0x2, 0x5e6, 0x5bc, 0x1, 0x2, 0x5e7, 0x5bc, 0x1, 0x2],
  [0x5e8, 0x5bc, 0x1, 0x2, 0x5e9, 0x5bc, 0x1, 0x2, 0x5ea, 0x5bc, 0x1, 0x2, 0x5d5, 0x5b9, 0x1, 0x2],
  [0x5d1, 0x5bf, 0x1, 0x2, 0x5db, 0x5bf, 0x1, 0x2, 0x5e4, 0x5bf, 0x1, 0x2, 0x5d0, 0x5dc, 0x8e, 0x2],
  [0x6c7, 0x674, 0xd, 0x2, 0x626, 0x627, 0x1, 0x2, 0x626, 0x627, 0x1, 0x2, 0x626, 0x6d5, 0x1, 0x2],
  [0x626, 0x6d5, 0x1, 0x2, 0x626, 0x648, 0x1, 0x2, 0x626, 0x648, 0x1, 0x2, 0x626, 0x6c7, 0x1, 0x2],
  [0x626, 0x6c7, 0x1, 0x2, 0x626, 0x6c6, 0x1, 0x2, 0x626, 0x6c6, 0x1, 0x2, 0x626, 0x6c8, 0x1, 0x2],
  [0x626, 0x6c8, 0x1, 0x2, 0x626, 0x6d0, 0x1, 0x2, 0x626, 0x6d0, 0x1, 0x2, 0x626, 0x6d0, 0x1, 0x2],
  [0x626, 0x649, 0x1, 0x2, 0x626, 0x649, 0x1, 0x2, 0x626, 0x649, 0x5, 0x2, 0x626, 0x62c, 0x1, 0x2],
  [0x626, 0x62d, 0x1, 0x2, 0x626, 0x645, 0x1, 0x2, 0x626, 0x649, 0x1, 0x2, 0x626, 0x64a, 0x1, 0x2],
  [0x628, 0x62c, 0x1, 0x2, 0x628, 0x62d, 0x1, 0x2, 0x628, 0x62e, 0x1, 0x2, 0x628, 0x645, 0x1, 0x2],
  [0x628, 0x649, 0x1, 0x2, 0x628, 0x64a, 0x1, 0x2, 0x62a, 0x62c, 0x1, 0x2, 0x62a, 0x62d, 0x1, 0x2],
  [0x62a, 0x62e, 0x1, 0x2, 0x62a, 0x645, 0x1, 0x2, 0x62a, 0x649, 0x1, 0x2, 0x62a, 0x64a, 0x1, 0x2],
  [0x62b, 0x62c, 0x1, 0x2, 0x62b, 0x645, 0x1, 0x2, 0x62b, 0x649, 0x1, 0x2, 0x62b, 0x64a, 0x1, 0x2],
  [0x62c, 0x62d, 0x1, 0x2, 0x62c, 0x645, 0x1, 0x2, 0x62d, 0x62c, 0x1, 0x2, 0x62d, 0x645, 0x1, 0x2],
  [0x62e, 0x62c, 0x1, 0x2, 0x62e, 0x62d, 0x1, 0x2, 0x62e, 0x645, 0x1, 0x2, 0x633, 0x62c, 0x1, 0x2],
  [0x633, 0x62d, 0x1, 0x2, 0x633, 0x62e, 0x1, 0x2, 0x633, 0x645, 0x1, 0x2, 0x635, 0x62d, 0x1, 0x2],
  [0x635, 0x645, 0x1, 0x2, 0x636, 0x62c, 0x1, 0x2, 0x636, 0x62d, 0x1, 0x2, 0x636, 0x62e, 0x1, 0x2],
  [0x636, 0x645, 0x1, 0x2, 0x637, 0x62d, 0x1, 0x2, 0x637, 0x645, 0x1, 0x2, 0x638, 0x645, 0x1, 0x2],
  [0x639, 0x62c, 0x1, 0x2, 0x639, 0x645, 0x1, 0x2, 0x63a, 0x62c, 0x1, 0x2, 0x63a, 0x645, 0x1, 0x2],
  [0x641, 0x62c, 0x1, 0x2, 0x641, 0x62d, 0x1, 0x2, 0x641, 0x62e, 0x1, 0x2, 0x641, 0x645, 0x1, 0x2],
  [0x641, 0x649, 0x1, 0x2, 0x641, 0x64a, 0x1, 0x2, 0x642, 0x62d, 0x1, 0x2, 0x642, 0x645, 0x1, 0x2],
  [0x642, 0x649, 0x1, 0x2, 0x642, 0x64a, 0x1, 0x2, 0x643, 0x627, 0x1, 0x2, 0x643, 0x62c, 0x1, 0x2],
  [0x643, 0x62d, 0x1, 0x2, 0x643, 0x62e, 0x1, 0x2, 0x643, 0x644, 0x1, 0x2, 0x643, 0x645, 0x1, 0x2],
  [0x643, 0x649, 0x1, 0x2, 0x643, 0x64a, 0x1, 0x2, 0x644, 0x62c, 0x1, 0x2, 0x644, 0x62d, 0x1, 0x2],
  [0x644, 0x62e, 0x1, 0x2, 0x644, 0x645, 0x1, 0x2, 0x644, 0x649, 0x1, 0x2, 0x644, 0x64a, 0x1, 0x2],
  [0x645, 0x62c, 0x1, 0x2, 0x645, 0x62d, 0x1, 0x2, 0x645, 0x62e, 0x1, 0x2, 0x645, 0x645, 0x1, 0x2],
  [0x645, 0x649, 0x1, 0x2, 0x645, 0x64a, 0x1, 0x2, 0x646, 0x62c, 0x1, 0x2, 0x646, 0x62d, 0x1, 0x2],
  [0x646, 0x62e, 0x1, 0x2, 0x646, 0x645, 0x1, 0x2, 0x646, 0x649, 0x1, 0x2, 0x646, 0x64a, 0x1, 0x2],
  [0x647, 0x62c, 0x1, 0x2, 0x647, 0x645, 0x1, 0x2, 0x647, 0x649, 0x1, 0x2, 0x647, 0x64a, 0x1, 0x2],
  [0x64a, 0x62c, 0x1, 0x2, 0x64a, 0x62d, 0x1, 0x2, 0x64a, 0x62e, 0x1, 0x2, 0x64a, 0x645, 0x1, 0x2],
  [0x64a, 0x649, 0x1, 0x2, 0x64a, 0x64a, 0x1, 0x2, 0x630, 0x670, 0x1, 0x2, 0x631, 0x670, 0x1, 0x2],
  [0x649, 0x670, 0x1, 0x3, 0x20, 0x64c, 0x651, 0x1, 0x3, 0x20, 0x64d, 0x651, 0x1, 0x3, 0x20, 0x64e],
  [0x651, 0x1, 0x3, 0x20, 0x64f, 0x651, 0x1, 0x3, 0x20, 0x650, 0x651, 0x1, 0x3, 0x20, 0x651, 0x670],
  [0x1, 0x2, 0x626, 0x631, 0x1, 0x2, 0x626, 0x632, 0x1, 0x2, 0x626, 0x645, 0x1, 0x2, 0x626, 0x646],
  [0x1, 0x2, 0x626, 0x649, 0x1, 0x2, 0x626, 0x64a, 0x1, 0x2, 0x628, 0x631, 0x1, 0x2, 0x628, 0x632],
  [0x1, 0x2, 0x628, 0x645, 0x1, 0x2, 0x628, 0x646, 0x1, 0x2, 0x628, 0x649, 0x1, 0x2, 0x628, 0x64a],
  [0x1, 0x2, 0x62a, 0x631, 0x1, 0x2, 0x62a, 0x632, 0x1, 0x2, 0x62a, 0x645, 0x1, 0x2, 0x62a, 0x646],
  [0x1, 0x2, 0x62a, 0x649, 0x1, 0x2, 0x62a, 0x64a, 0x1, 0x2, 0x62b, 0x631, 0x1, 0x2, 0x62b, 0x632],
  [0x1, 0x2, 0x62b, 0x645, 0x1, 0x2, 0x62b, 0x646, 0x1, 0x2, 0x62b, 0x649, 0x1, 0x2, 0x62b, 0x64a],
  [0x1, 0x2, 0x641, 0x649, 0x1, 0x2, 0x641, 0x64a, 0x1, 0x2, 0x642, 0x649, 0x1, 0x2, 0x642, 0x64a],
  [0x1, 0x2, 0x643, 0x627, 0x1, 0x2, 0x643, 0x644, 0x1, 0x2, 0x643, 0x645, 0x1, 0x2, 0x643, 0x649],
  [0x1, 0x2, 0x643, 0x64a, 0x1, 0x2, 0x644, 0x645, 0x1, 0x2, 0x644, 0x649, 0x1, 0x2, 0x644, 0x64a],
  [0x1, 0x2, 0x645, 0x627, 0x1, 0x2, 0x645, 0x645, 0x1, 0x2, 0x646, 0x631, 0x1, 0x2, 0x646, 0x632],
  [0x1, 0x2, 0x646, 0x645, 0x1, 0x2, 0x646, 0x646, 0x1, 0x2, 0x646, 0x649, 0x1, 0x2, 0x646, 0x64a],
  [0x1, 0x2, 0x649, 0x670, 0x1, 0x2, 0x64a, 0x631, 0x1, 0x2, 0x64a, 0x632, 0x1, 0x2, 0x64a, 0x645],
  [0x1, 0x2, 0x64a, 0x646, 0x1, 0x2, 0x64a, 0x649, 0x1, 0x2, 0x64a, 0x64a, 0x1, 0x2, 0x626, 0x62c],
  [0x1, 0x2, 0x626, 0x62d, 0x1, 0x2, 0x626, 0x62e, 0x1, 0x2, 0x626, 0x645, 0x1, 0x2, 0x626, 0x647],
  [0x1, 0x2, 0x628, 0x62c, 0x1, 0x2, 0x628, 0x62d, 0x1, 0x2, 0x628, 0x62e, 0x1, 0x2, 0x628, 0x645],
  [0x1, 0x2, 0x628, 0x647, 0x1, 0x2, 0x62a, 0x62c, 0x1, 0x2, 0x62a, 0x62d, 0x1, 0x2, 0x62a, 0x62e],
  [0x1, 0x2, 0x62a, 0x645, 0x1, 0x2, 0x62a, 0x647, 0x1, 0x2, 0x62b, 0x645, 0x1, 0x2, 0x62c, 0x62d],
  [0x1, 0x2, 0x62c, 0x645, 0x1, 0x2, 0x62d, 0x62c, 0x1, 0x2, 0x62d, 0x645, 0x1, 0x2, 0x62e, 0x62c],
  [0x1, 0x2, 0x62e, 0x645, 0x1, 0x2, 0x633, 0x62c, 0x1, 0x2, 0x633, 0x62d, 0x1, 0x2, 0x633, 0x62e],
  [0x1, 0x2, 0x633, 0x645, 0x1, 0x2, 0x635, 0x62d, 0x1, 0x2, 0x635, 0x62e, 0x1, 0x2, 0x635, 0x645],
  [0x1, 0x2, 0x636, 0x62c, 0x1, 0x2, 0x636, 0x62d, 0x1, 0x2, 0x636, 0x62e, 0x1, 0x2, 0x636, 0x645],
  [0x1, 0x2, 0x637, 0x62d, 0x1, 0x2, 0x638, 0x645, 0x1, 0x2, 0x639, 0x62c, 0x1, 0x2, 0x639, 0x645],
  [0x1, 0x2, 0x63a, 0x62c, 0x1, 0x2, 0x63a, 0x645, 0x1, 0x2, 0x641, 0x62c, 0x1, 0x2, 0x641, 0x62d],
  [0x1, 0x2, 0x641, 0x62e, 0x1, 0x2, 0x641, 0x645, 0x1, 0x2, 0x642, 0x62d, 0x1, 0x2, 0x642, 0x645],
  [0x1, 0x2, 0x643, 0x62c, 0x1, 0x2, 0x643, 0x62d, 0x1, 0x2, 0x643, 0x62e, 0x1, 0x2, 0x643, 0x644],
  [0x1, 0x2, 0x643, 0x645, 0x1, 0x2, 0x644, 0x62c, 0x1, 0x2, 0x644, 0x62d, 0x1, 0x2, 0x644, 0x62e],
  [0x1, 0x2, 0x644, 0x645, 0x1, 0x2, 0x644, 0x647, 0x1, 0x2, 0x645, 0x62c, 0x1, 0x2, 0x645, 0x62d],
  [0x1, 0x2, 0x645, 0x62e, 0x1, 0x2, 0x645, 0x645, 0x1, 0x2, 0x646, 0x62c, 0x1, 0x2, 0x646, 0x62d],
  [0x1, 0x2, 0x646, 0x62e, 0x1, 0x2, 0x646, 0x645, 0x1, 0x2, 0x646, 0x647, 0x1, 0x2, 0x647, 0x62c],
  [0x1, 0x2, 0x647, 0x645, 0x1, 0x2, 0x647, 0x670, 0x1, 0x2, 0x64a, 0x62c, 0x1, 0x2, 0x64a, 0x62d],
  [0x1, 0x2, 0x64a, 0x62e, 0x1, 0x2, 0x64a, 0x645, 0x1, 0x2, 0x64a, 0x647, 0x1, 0x2, 0x626, 0x645],
  [0x1, 0x2, 0x626, 0x647, 0x1, 0x2, 0x628, 0x645, 0x1, 0x2, 0x628, 0x647, 0x1, 0x2, 0x62a, 0x645],
  [0x1, 0x2, 0x62a, 0x647, 0x1, 0x2, 0x62b, 0x645, 0x1, 0x2, 0x62b, 0x647, 0x1, 0x2, 0x633, 0x645],
  [0x1, 0x2, 0x633, 0x647, 0x1, 0x2, 0x634, 0x645, 0x1, 0x2, 0x634, 0x647, 0x1, 0x2, 0x643, 0x644],
  [0x1, 0x2, 0x643, 0x645, 0x1, 0x2, 0x644, 0x645, 0x1, 0x2, 0x646, 0x645, 0x1, 0x2, 0x646, 0x647],
  [0x1, 0x2, 0x64a, 0x645, 0x1, 0x2, 0x64a, 0x647, 0x1, 0x3, 0x640, 0x64e, 0x651, 0x1, 0x3, 0x640],
  [0x64f, 0x651, 0x1, 0x3, 0x640, 0x650, 0x651, 0x1, 0x2, 0x637, 0x649, 0x1, 0x2, 0x637, 0x64a],
  [0x1, 0x2, 0x639, 0x649, 0x1, 0x2, 0x639, 0x64a, 0x1, 0x2, 0x63a, 0x649, 0x1, 0x2, 0x63a, 0x64a],
  [0x1, 0x2, 0x633, 0x649, 0x1, 0x2, 0x633, 0x64a, 0x1, 0x2, 0x634, 0x649, 0x1, 0x2, 0x634, 0x64a],
  [0x1, 0x2, 0x62d, 0x649, 0x1, 0x2, 0x62d, 0x64a, 0x1, 0x2, 0x62c, 0x649, 0x1, 0x2, 0x62c, 0x64a],
  [0x1, 0x2, 0x62e, 0x649, 0x1, 0x2, 0x62e, 0x64a, 0x1, 0x2, 0x635, 0x649, 0x1, 0x2, 0x635, 0x64a],
  [0x1, 0x2, 0x636, 0x649, 0x1, 0x2, 0x636, 0x64a, 0x1, 0x2, 0x634, 0x62c, 0x1, 0x2, 0x634, 0x62d],
  [0x1, 0x2, 0x634, 0x62e, 0x1, 0x2, 0x634, 0x645, 0x1, 0x2, 0x634, 0x631, 0x1, 0x2, 0x633, 0x631],
  [0x1, 0x2, 0x635, 0x631, 0x1, 0x2, 0x636, 0x631, 0x1, 0x2, 0x637, 0x649, 0x1, 0x2, 0x637, 0x64a],
  [0x1, 0x2, 0x639, 0x649, 0x1, 0x2, 0x639, 0x64a, 0x1, 0x2, 0x63a, 0x649, 0x1, 0x2, 0x63a, 0x64a],
  [0x1, 0x2, 0x633, 0x649, 0x1, 0x2, 0x633, 0x64a, 0x1, 0x2, 0x634, 0x649, 0x1, 0x2, 0x634, 0x64a],
  [0x1, 0x2, 0x62d, 0x649, 0x1, 0x2, 0x62d, 0x64a, 0x1, 0x2, 0x62c, 0x649, 0x1, 0x2, 0x62c, 0x64a],
  [0x1, 0x2, 0x62e, 0x649, 0x1, 0x2, 0x62e, 0x64a, 0x1, 0x2, 0x635, 0x649, 0x1, 0x2, 0x635, 0x64a],
  [0x1, 0x2, 0x636, 0x649, 0x1, 0x2, 0x636, 0x64a, 0x1, 0x2, 0x634, 0x62c, 0x1, 0x2, 0x634, 0x62d],
  [0x1, 0x2, 0x634, 0x62e, 0x1, 0x2, 0x634, 0x645, 0x1, 0x2, 0x634, 0x631, 0x1, 0x2, 0x633, 0x631],
  [0x1, 0x2, 0x635, 0x631, 0x1, 0x2, 0x636, 0x631, 0x1, 0x2, 0x634, 0x62c, 0x1, 0x2, 0x634, 0x62d],
  [0x1, 0x2, 0x634, 0x62e, 0x1, 0x2, 0x634, 0x645, 0x1, 0x2, 0x633, 0x647, 0x1, 0x2, 0x634, 0x647],
  [0x1, 0x2, 0x637, 0x645, 0x1, 0x2, 0x633, 0x62c, 0x1, 0x2, 0x633, 0x62d, 0x1, 0x2, 0x633, 0x62e],
  [0x1, 0x2, 0x634, 0x62c, 0x1, 0x2, 0x634, 0x62d, 0x1, 0x2, 0x634, 0x62e, 0x1, 0x2, 0x637, 0x645],
  [0x1, 0x2, 0x638, 0x645, 0x1, 0x2, 0x627, 0x64b, 0x1, 0x2, 0x627, 0x64b, 0x13, 0x3, 0x62a, 0x62c],
  [0x645, 0x1, 0x3, 0x62a, 0x62d, 0x62c, 0x1, 0x3, 0x62a, 0x62d, 0x62c, 0x1, 0x3, 0x62a, 0x62d],
  [0x645, 0x1, 0x3, 0x62a, 0x62e, 0x645, 0x1, 0x3, 0x62a, 0x645, 0x62c, 0x1, 0x3, 0x62a, 0x645],
  [0x62d, 0x1, 0x3, 0x62a, 0x645, 0x62e, 0x1, 0x3, 0x62c, 0x645, 0x62d, 0x1, 0x3, 0x62c, 0x645],
  [0x62d, 0x1, 0x3, 0x62d, 0x645, 0x64a, 0x1, 0x3, 0x62d, 0x645, 0x649, 0x1, 0x3, 0x633, 0x62d],
  [0x62c, 0x1, 0x3, 0x633, 0x62c, 0x62d, 0x1, 0x3, 0x633, 0x62c, 0x649, 0x1, 0x3, 0x633, 0x645],
  [0x62d, 0x1, 0x3, 0x633, 0x645, 0x62d, 0x1, 0x3, 0x633, 0x645, 0x62c, 0x1, 0x3, 0x633, 0x645],
  [0x645, 0x1, 0x3, 0x633, 0x645, 0x645, 0x1, 0x3, 0x635, 0x62d, 0x62d, 0x1, 0x3, 0x635, 0x62d],
  [0x62d, 0x1, 0x3, 0x635, 0x645, 0x645, 0x1, 0x3, 0x634, 0x62d, 0x645, 0x1, 0x3, 0x634, 0x62d],
  [0x645, 0x1, 0x3, 0x634, 0x62c, 0x64a, 0x1, 0x3, 0x634, 0x645, 0x62e, 0x1, 0x3, 0x634, 0x645],
  [0x62e, 0x1, 0x3, 0x634, 0x645, 0x645, 0x1, 0x3, 0x634, 0x645, 0x645, 0x1, 0x3, 0x636, 0x62d],
  [0x649, 0x1, 0x3, 0x636, 0x62e, 0x645, 0x1, 0x3, 0x636, 0x62e, 0x645, 0x1, 0x3, 0x637, 0x645],
  [0x62d, 0x1, 0x3, 0x637, 0x645, 0x62d, 0x1, 0x3, 0x637, 0x645, 0x645, 0x1, 0x3, 0x637, 0x645],
  [0x64a, 0x1, 0x3, 0x639, 0x62c, 0x645, 0x1, 0x3, 0x639, 0x645, 0x645, 0x1, 0x3, 0x639, 0x645],
  [0x645, 0x1, 0x3, 0x639, 0x645, 0x649, 0x1, 0x3, 0x63a, 0x645, 0x645, 0x1, 0x3, 0x63a, 0x645],
  [0x64a, 0x1, 0x3, 0x63a, 0x645, 0x649, 0x1, 0x3, 0x641, 0x62e, 0x645, 0x1, 0x3, 0x641, 0x62e],
  [0x645, 0x1, 0x3, 0x642, 0x645, 0x62d, 0x1, 0x3, 0x642, 0x645, 0x645, 0x1, 0x3, 0x644, 0x62d],
  [0x645, 0x1, 0x3, 0x644, 0x62d, 0x64a, 0x1, 0x3, 0x644, 0x62d, 0x649, 0x1, 0x3, 0x644, 0x62c],
  [0x62c, 0x1, 0x3, 0x644, 0x62c, 0x62c, 0x1, 0x3, 0x644, 0x62e, 0x645, 0x1, 0x3, 0x644, 0x62e],
  [0x645, 0x1, 0x3, 0x644, 0x645, 0x62d, 0x1, 0x3, 0x644, 0x645, 0x62d, 0x1, 0x3, 0x645, 0x62d],
  [0x62c, 0x1, 0x3, 0x645, 0x62d, 0x645, 0x1, 0x3, 0x645, 0x62d, 0x64a, 0x1, 0x3, 0x645, 0x62c],
  [0x62d, 0x1, 0x3, 0x645, 0x62c, 0x645, 0x1, 0x3, 0x645, 0x62e, 0x62c, 0x1, 0x3, 0x645, 0x62e],
  [0x645, 0x3, 0x3, 0x645, 0x62c, 0x62e, 0x1, 0x3, 0x647, 0x645, 0x62c, 0x1, 0x3, 0x647, 0x645],
  [0x645, 0x1, 0x3, 0x646, 0x62d, 0x645, 0x1, 0x3, 0x646, 0x62d, 0x649, 0x1, 0x3, 0x646, 0x62c],
  [0x645, 0x1, 0x3, 0x646, 0x62c, 0x645, 0x1, 0x3, 0x646, 0x62c, 0x649, 0x1, 0x3, 0x646, 0x645],
  [0x64a, 0x1, 0x3, 0x646, 0x645, 0x649, 0x1, 0x3, 0x64a, 0x645, 0x645, 0x1, 0x3, 0x64a, 0x645],
  [0x645, 0x1, 0x3, 0x628, 0x62e, 0x64a, 0x1, 0x3, 0x62a, 0x62c, 0x64a, 0x1, 0x3, 0x62a, 0x62c],
  [0x649, 0x1, 0x3, 0x62a, 0x62e, 0x64a, 0x1, 0x3, 0x62a, 0x62e, 0x649, 0x1, 0x3, 0x62a, 0x645],
  [0x64a, 0x1, 0x3, 0x62a, 0x645, 0x649, 0x1, 0x3, 0x62c, 0x645, 0x64a, 0x1, 0x3, 0x62c, 0x62d],
  [0x649, 0x1, 0x3, 0x62c, 0x645, 0x649, 0x1, 0x3, 0x633, 0x62e, 0x649, 0x1, 0x3, 0x635, 0x62d],
  [0x64a, 0x1, 0x3, 0x634, 0x62d, 0x64a, 0x1, 0x3, 0x636, 0x62d, 0x64a, 0x1, 0x3, 0x644, 0x62c],
  [0x64a, 0x1, 0x3, 0x644, 0x645, 0x64a, 0x1, 0x3, 0x64a, 0x62d, 0x64a, 0x1, 0x3, 0x64a, 0x62c],
  [0x64a, 0x1, 0x3, 0x64a, 0x645, 0x64a, 0x1, 0x3, 0x645, 0x645, 0x64a, 0x1, 0x3, 0x642, 0x645],
  [0x64a, 0x1, 0x3, 0x646, 0x62d, 0x64a, 0x1, 0x3, 0x642, 0x645, 0x62d, 0x1, 0x3, 0x644, 0x62d],
  [0x645, 0x1, 0x3, 0x639, 0x645, 0x64a, 0x1, 0x3, 0x643, 0x645, 0x64a, 0x1, 0x3, 0x646, 0x62c],
  [0x62d, 0x1, 0x3, 0x645, 0x62e, 0x64a, 0x1, 0x3, 0x644, 0x62c, 0x645, 0x1, 0x3, 0x643, 0x645],
  [0x645, 0x1, 0x3, 0x644, 0x62c, 0x645, 0x1, 0x3, 0x646, 0x62c, 0x62d, 0x1, 0x3, 0x62c, 0x62d],
  [0x64a, 0x1, 0x3, 0x62d, 0x62c, 0x64a, 0x1, 0x3, 0x645, 0x62c, 0x64a, 0x1, 0x3, 0x641, 0x645],
  [0x64a, 0x1, 0x3, 0x628, 0x62d, 0x64a, 0x1, 0x3, 0x643, 0x645, 0x645, 0x1, 0x3, 0x639, 0x62c],
  [0x645, 0x1, 0x3, 0x635, 0x645, 0x645, 0x1, 0x3, 0x633, 0x62e, 0x64a, 0x1, 0x3, 0x646, 0x62c],
  [0x64a, 0x29, 0x3, 0x635, 0x644, 0x6d2, 0x1, 0x3, 0x642, 0x644, 0x6d2, 0x1, 0x4, 0x627, 0x644],
  [0x644, 0x647, 0x1, 0x4, 0x627, 0x643, 0x628, 0x631, 0x1, 0x4, 0x645, 0x62d, 0x645, 0x62f, 0x1],
  [0x4, 0x635, 0x644, 0x639, 0x645, 0x1, 0x4, 0x631, 0x633, 0x648, 0x644, 0x1, 0x4, 0x639, 0x644],
  [0x64a, 0x647, 0x1, 0x4, 0x648, 0x633, 0x644, 0x645, 0x1, 0x3, 0x635, 0x644, 0x649, 0x1, 0x12],
  [0x635, 0x644, 0x649, 0x20, 0x627, 0x644, 0x644, 0x647, 0x20, 0x639, 0x644, 0x64a, 0x647, 0x20],
  [0x648, 0x633, 0x644, 0x645, 0x1, 0x8, 0x62c, 0x644, 0x20, 0x62c, 0x644, 0x627, 0x644, 0x647],
  [0x1, 0x4, 0x631, 0x6cc, 0x627, 0x644, 0x4d, 0x2, 0x20, 0x305, 0x1, 0x2, 0x20, 0x305, 0x1, 0x2],
  [0x20, 0x305, 0x1, 0x2, 0x20, 0x305, 0x24, 0x2, 0x20, 0x64b, 0x1, 0x2, 0x640, 0x64b, 0x1, 0x2],
  [0x20, 0x64c, 0x2, 0x2, 0x20, 0x64d, 0x2, 0x2, 0x20, 0x64e, 0x1, 0x2, 0x640, 0x64e, 0x1, 0x2],
  [0x20, 0x64f, 0x1, 0x2, 0x640, 0x64f, 0x1, 0x2, 0x20, 0x650, 0x1, 0x2, 0x640, 0x650, 0x1, 0x2],
  [0x20, 0x651, 0x1, 0x2, 0x640, 0x651, 0x1, 0x2, 0x20, 0x652, 0x1, 0x2, 0x640, 0x652, 0x76, 0x2],
  [0x644, 0x622, 0x1, 0x2, 0x644, 0x622, 0x1, 0x2, 0x644, 0x623, 0x1, 0x2, 0x644, 0x623, 0x1, 0x2],
  [0x644, 0x625, 0x1, 0x2, 0x644, 0x625, 0x1, 0x2, 0x644, 0x627, 0x1, 0x2, 0x644, 0x627, 0xe7, 0x2],
  [0x20, 0x304, 0xd17b, 0x2, 0x1d157, 0x1d165, 0x1, 0x2, 0x1d158, 0x1d165, 0x1, 0x3, 0x1d158],
  [0x1d165, 0x1d16e, 0x1, 0x3, 0x1d158, 0x1d165, 0x1d16f, 0x1, 0x3, 0x1d158, 0x1d165, 0x1d170, 0x1],
  [0x3, 0x1d158, 0x1d165, 0x1d171, 0x1, 0x3, 0x1d158, 0x1d165, 0x1d172, 0x57, 0x2, 0x1d1b9],
  [0x1d165, 0x1, 0x2, 0x1d1ba, 0x1d165, 0x1, 0x3, 0x1d1b9, 0x1d165, 0x1d16e, 0x1, 0x3, 0x1d1ba],
  [0x1d165, 0x1d16e, 0x1, 0x3, 0x1d1b9, 0x1d165, 0x1d16f, 0x1, 0x3, 0x1d1ba, 0x1d165, 0x1d16f],
  [0x1f41, 0x2, 0x30, 0x2c, 0x1, 0x2, 0x31, 0x2c, 0x1, 0x2, 0x32, 0x2c, 0x1, 0x2, 0x33, 0x2c, 0x1],
  [0x2, 0x34, 0x2c, 0x1, 0x2, 0x35, 0x2c, 0x1, 0x2, 0x36, 0x2c, 0x1, 0x2, 0x37, 0x2c, 0x1, 0x2],
  [0x38, 0x2c, 0x1, 0x2, 0x39, 0x2c, 0x6, 0x3, 0x28, 0x61, 0x29, 0x1, 0x3, 0x28, 0x62, 0x29, 0x1],
  [0x3, 0x28, 0x63, 0x29, 0x1, 0x3, 0x28, 0x64, 0x29, 0x1, 0x3, 0x28, 0x65, 0x29, 0x1, 0x3, 0x28],
  [0x66, 0x29, 0x1, 0x3, 0x28, 0x67, 0x29, 0x1, 0x3, 0x28, 0x68, 0x29, 0x1, 0x3, 0x28, 0x69, 0x29],
  [0x1, 0x3, 0x28, 0x6a, 0x29, 0x1, 0x3, 0x28, 0x6b, 0x29, 0x1, 0x3, 0x28, 0x6c, 0x29, 0x1, 0x3],
  [0x28, 0x6d, 0x29, 0x1, 0x3, 0x28, 0x6e, 0x29, 0x1, 0x3, 0x28, 0x6f, 0x29, 0x1, 0x3, 0x28, 0x70],
  [0x29, 0x1, 0x3, 0x28, 0x71, 0x29, 0x1, 0x3, 0x28, 0x72, 0x29, 0x1, 0x3, 0x28, 0x73, 0x29, 0x1],
  [0x3, 0x28, 0x74, 0x29, 0x1, 0x3, 0x28, 0x75, 0x29, 0x1, 0x3, 0x28, 0x76, 0x29, 0x1, 0x3, 0x28],
  [0x77, 0x29, 0x1, 0x3, 0x28, 0x78, 0x29, 0x1, 0x3, 0x28, 0x79, 0x29, 0x1, 0x3, 0x28, 0x7a, 0x29],
  [0x1, 0x3, 0x3014, 0x73, 0x3015, 0x3, 0x2, 0x63, 0x64, 0x1, 0x2, 0x77, 0x7a, 0x1c, 0x2, 0x68],
  [0x76, 0x1, 0x2, 0x6d, 0x76, 0x1, 0x2, 0x73, 0x64, 0x1, 0x2, 0x73, 0x73, 0x1, 0x3, 0x70, 0x70],
  [0x76, 0x1, 0x2, 0x77, 0x63, 0x1b, 0x2, 0x6d, 0x63, 0x1, 0x2, 0x6d, 0x64, 0x1, 0x2, 0x6d, 0x72],
  [0x24, 0x2, 0x64, 0x6a, 0x70, 0x2, 0x307b, 0x304b, 0x1, 0x2, 0x30b3, 0x30b3, 0x3f, 0x3, 0x3014],
  [0x672c, 0x3015, 0x1, 0x3, 0x3014, 0x4e09, 0x3015, 0x1, 0x3, 0x3014, 0x4e8c, 0x3015, 0x1, 0x3],
  [0x3014, 0x5b89, 0x3015, 0x1, 0x3, 0x3014, 0x70b9, 0x3015, 0x1, 0x3, 0x3014, 0x6253, 0x3015, 0x1],
  [0x3, 0x3014, 0x76d7, 0x3015, 0x1, 0x3, 0x3014, 0x52dd, 0x3015, 0x1, 0x3, 0x3014, 0x6557, 0x3015]]

end PageHost.Url.Domain

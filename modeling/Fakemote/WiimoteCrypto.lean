import Fakemote.Library.Bytes
import Mathlib.Algebra.Group.Nat.Defs

/-! `wiimote_crypto.c`: key derivation and encryption of the extension registers. -/

namespace Fakemote

def keygenSbox1stParty : List UInt8 := [
  0x70, 0x51, 0x03, 0x86, 0x40, 0x0d, 0x4f, 0xeb, 0x3e, 0xcc, 0xd1, 0x87, 0x35, 0xbd, 0xf5, 0x0b,
  0x5e, 0xd0, 0xf8, 0xf2, 0xd5, 0xe2, 0x6c, 0x31, 0x0c, 0xad, 0xfc, 0x21, 0xc3, 0x78, 0xc1, 0x06,
  0xc2, 0x4c, 0x55, 0xe6, 0x4a, 0x34, 0x48, 0x11, 0x1e, 0xda, 0xe7, 0x1a, 0x84, 0xa0, 0x96, 0xa7,
  0xe3, 0x7f, 0xaf, 0x63, 0x9c, 0xfa, 0x23, 0x5b, 0x79, 0xc8, 0x9e, 0xba, 0xb2, 0xc9, 0x22, 0x12,
  0x4b, 0xb3, 0xa1, 0xb6, 0x32, 0x49, 0xa2, 0xe1, 0x89, 0x39, 0x10, 0x66, 0xc5, 0x07, 0x8f, 0x54,
  0xea, 0x91, 0xca, 0x3f, 0xf9, 0x19, 0xf0, 0xd7, 0x46, 0xbc, 0x28, 0x1b, 0x61, 0xe8, 0x2f, 0x6a,
  0xae, 0x9d, 0xf6, 0x4e, 0x09, 0x14, 0x77, 0x4d, 0xdb, 0x1f, 0x2e, 0x7b, 0x7c, 0xf1, 0x43, 0xa3,
  0x00, 0xb8, 0x13, 0x8c, 0x85, 0xb9, 0x29, 0x75, 0x88, 0xfd, 0xd2, 0x56, 0x1c, 0x50, 0x97, 0x41,
  0xe5, 0x3b, 0x60, 0xb5, 0xc0, 0x64, 0xee, 0x98, 0xd6, 0x2d, 0x25, 0xa4, 0xaa, 0xcd, 0x7d, 0xa8,
  0x83, 0xc6, 0xab, 0xbe, 0x44, 0x99, 0x26, 0x3c, 0xce, 0x9f, 0xbf, 0xd3, 0xcb, 0x76, 0x7a, 0x7e,
  0x82, 0x01, 0x8a, 0x9a, 0x80, 0x1d, 0x0e, 0xb0, 0x5c, 0xd4, 0x38, 0x62, 0xf4, 0x30, 0xe0, 0x8e,
  0x53, 0xb7, 0x02, 0x57, 0xac, 0xa6, 0x52, 0x0a, 0x6d, 0x92, 0x65, 0x17, 0x24, 0x33, 0x45, 0x72,
  0x74, 0xb1, 0xb4, 0xf7, 0x5d, 0xed, 0x2c, 0xff, 0x47, 0x37, 0x5a, 0x90, 0xbb, 0xdf, 0x2a, 0x16,
  0x59, 0x95, 0xd9, 0xc4, 0x27, 0x67, 0x73, 0xc7, 0x68, 0xfe, 0xa5, 0xdd, 0x6b, 0x5f, 0x93, 0xd8,
  0xec, 0x05, 0x3a, 0x8d, 0x6e, 0xfb, 0x3d, 0xa9, 0x69, 0x36, 0xf3, 0x94, 0xde, 0xef, 0x15, 0x6f,
  0x8b, 0x9b, 0x08, 0x0f, 0xdc, 0x81, 0x18, 0x20, 0x04, 0xe4, 0x71, 0xcf, 0xe9, 0x2b, 0x42, 0x58]

def sboxes1stParty : List (List UInt8) := [
  [
    0x01, 0xa0, 0xa9, 0x62, 0xd6, 0x3f, 0x85, 0xa7, 0xb6, 0xd4, 0xfa, 0x15, 0x66, 0x17, 0x09, 0xbd,
    0x5d, 0x14, 0x34, 0x26, 0x59, 0x72, 0x91, 0x54, 0x06, 0x4f, 0xf8, 0xb0, 0x5b, 0x74, 0x93, 0x99,
    0x8c, 0xf2, 0x45, 0xcd, 0xea, 0x4e, 0xad, 0x10, 0x4a, 0xe5, 0xca, 0xee, 0xdf, 0xc6, 0x6f, 0x9f,
    0x88, 0x8e, 0x02, 0xcc, 0x08, 0xa8, 0x77, 0x94, 0x6d, 0x21, 0xb1, 0x28, 0xe4, 0x39, 0x79, 0x96,
    0x60, 0x71, 0x81, 0x16, 0x2e, 0xe6, 0x78, 0xb9, 0xc4, 0x46, 0x9a, 0x42, 0xae, 0xb7, 0x7c, 0x43,
    0xb3, 0x22, 0x1a, 0x86, 0xc2, 0x32, 0x3d, 0x2d, 0x9c, 0xd2, 0x29, 0xe9, 0x63, 0x9b, 0xd1, 0x31,
    0x38, 0x5e, 0x1e, 0x36, 0x41, 0xbb, 0x03, 0x18, 0x2b, 0x3e, 0xbf, 0x68, 0x61, 0xfc, 0x52, 0xc0,
    0xde, 0xe0, 0x0a, 0x58, 0x13, 0x5a, 0x00, 0xbe, 0x1c, 0x90, 0x0e, 0x53, 0x12, 0xfd, 0xe2, 0x6e,
    0xba, 0xce, 0x24, 0x27, 0x44, 0x7f, 0x87, 0xa3, 0xa1, 0xd5, 0x50, 0x40, 0xe3, 0xf9, 0x83, 0xf7,
    0xc7, 0xa2, 0x35, 0xc8, 0xdb, 0x19, 0xab, 0x2f, 0x11, 0x25, 0xed, 0x33, 0x9e, 0x55, 0xe1, 0x48,
    0xaf, 0x73, 0x84, 0xda, 0x2a, 0xaa, 0x51, 0xeb, 0x9d, 0x95, 0xb2, 0xcb, 0xe7, 0x70, 0x80, 0xfe,
    0x4c, 0x65, 0x04, 0xef, 0xc5, 0xf1, 0xc3, 0x3a, 0xb4, 0xf5, 0x5f, 0x23, 0x89, 0xdd, 0x30, 0xa5,
    0x8b, 0xd3, 0xf6, 0xdc, 0x4d, 0x64, 0xd7, 0xf0, 0x8f, 0xec, 0x56, 0x37, 0x5c, 0xa4, 0x0d, 0x07,
    0x76, 0x8a, 0x2c, 0x0b, 0xb5, 0xd8, 0xc1, 0x1f, 0xe8, 0x3b, 0xf4, 0x4b, 0x1b, 0x47, 0x6c, 0x49,
    0x67, 0x7b, 0x92, 0xcf, 0x75, 0x7e, 0x20, 0xd9, 0x7d, 0x3c, 0x97, 0x7a, 0xd0, 0x05, 0x6b, 0x0f,
    0x1d, 0xfb, 0x82, 0x98, 0x57, 0x8d, 0xf3, 0x6a, 0xbc, 0xac, 0xc9, 0xa6, 0xff, 0xb8, 0x69, 0x0c],
  [
    0x4c, 0x4d, 0x72, 0x07, 0x5a, 0x49, 0x33, 0x8d, 0xa2, 0xab, 0x46, 0x3d, 0x63, 0x0d, 0xa0, 0x97,
    0xff, 0xf0, 0xf5, 0xfa, 0xc0, 0xe9, 0xdb, 0x62, 0xe4, 0xe1, 0x74, 0x43, 0xdc, 0x86, 0x18, 0x29,
    0x37, 0xf4, 0x06, 0xe2, 0xed, 0x6f, 0x90, 0x48, 0x1e, 0x2d, 0x1d, 0xea, 0x73, 0x94, 0x54, 0xdf,
    0x25, 0xf6, 0x47, 0x27, 0xd9, 0x11, 0x77, 0xc9, 0x84, 0x1c, 0x5b, 0x5c, 0x51, 0x81, 0xa6, 0x22,
    0x3e, 0x24, 0x96, 0xc8, 0x8a, 0xec, 0x82, 0x7c, 0x09, 0xb8, 0x45, 0x4a, 0x57, 0xbb, 0x2f, 0x50,
    0x75, 0x8e, 0x61, 0x70, 0x8c, 0x6c, 0xaf, 0xd0, 0xfd, 0xb4, 0x1b, 0xae, 0xde, 0xfe, 0x3b, 0xb5,
    0x36, 0xbd, 0x55, 0x01, 0x0e, 0x9c, 0x41, 0x56, 0x5f, 0xb3, 0x26, 0x03, 0x83, 0xba, 0x13, 0x4b,
    0xca, 0xc5, 0x0a, 0xf8, 0x60, 0xa5, 0xb9, 0xc7, 0xc3, 0x98, 0x32, 0xfb, 0x12, 0xf9, 0xa7, 0x92,
    0xaa, 0x68, 0xf3, 0x78, 0x7e, 0x05, 0x20, 0x21, 0x02, 0xe8, 0xbf, 0xf2, 0xb0, 0x59, 0x8f, 0xd2,
    0xcb, 0x87, 0x65, 0x15, 0xf1, 0x1a, 0xb2, 0x30, 0xad, 0xee, 0x58, 0xa3, 0x8b, 0x66, 0x1f, 0x2c,
    0xd7, 0x5d, 0x19, 0x85, 0xa8, 0xe6, 0xd3, 0x6b, 0xa1, 0x0c, 0x91, 0x93, 0x6a, 0x5e, 0x0b, 0x79,
    0xe3, 0xdd, 0x00, 0x4f, 0x3c, 0x89, 0x6e, 0x71, 0x69, 0xa9, 0xac, 0x40, 0xe5, 0x99, 0x28, 0xc6,
    0x31, 0x4e, 0x7a, 0xcd, 0x08, 0x9e, 0x7d, 0xef, 0x17, 0xfc, 0x88, 0xd8, 0xa4, 0x6d, 0x44, 0x95,
    0xd1, 0xb7, 0xd4, 0x9b, 0xbe, 0x2a, 0x34, 0x64, 0x2b, 0xcf, 0x2e, 0xeb, 0x38, 0xce, 0x23, 0xe0,
    0x3a, 0x3f, 0xf7, 0x7b, 0x9f, 0x10, 0x53, 0xbc, 0x52, 0x67, 0x16, 0xe7, 0x80, 0x76, 0x04, 0xc4,
    0xb6, 0xc1, 0xc2, 0x7f, 0x9a, 0xda, 0xd5, 0x39, 0x42, 0x14, 0x9d, 0xb1, 0x0f, 0x35, 0xd6, 0xcc],
  [
    0xb9, 0xda, 0x38, 0x0c, 0xa2, 0x9c, 0x09, 0x1f, 0x06, 0xb1, 0xb6, 0xfd, 0x1a, 0x69, 0x23, 0x30,
    0xc4, 0xde, 0x01, 0xd1, 0xf4, 0x58, 0x29, 0x37, 0x1c, 0x7d, 0xd5, 0xbf, 0xff, 0xbd, 0xc8, 0xc9,
    0xcf, 0x65, 0xbe, 0x7b, 0x78, 0x97, 0x98, 0x67, 0x08, 0xb3, 0x26, 0x57, 0xf7, 0xfa, 0x40, 0xad,
    0x8e, 0x75, 0xa6, 0x7c, 0xdb, 0x91, 0x8b, 0x51, 0x99, 0xd4, 0x17, 0x7a, 0x90, 0x8d, 0xce, 0x63,
    0xcb, 0x4e, 0xa0, 0xab, 0x18, 0x3a, 0x5b, 0x50, 0x7f, 0x21, 0x74, 0xc1, 0xbb, 0xb8, 0xb7, 0xba,
    0x0b, 0x35, 0x95, 0x31, 0x59, 0x9a, 0x4d, 0x04, 0x07, 0x1e, 0x5a, 0x76, 0x13, 0xf3, 0x71, 0x83,
    0xf0, 0x86, 0x03, 0xa8, 0x39, 0x42, 0xaa, 0x28, 0xe6, 0xe4, 0xd8, 0x5d, 0xd3, 0xd0, 0x6e, 0x6f,
    0x96, 0xfb, 0x5e, 0xbc, 0x56, 0xc2, 0x5f, 0x85, 0x9b, 0xe7, 0xaf, 0xd2, 0x3b, 0x84, 0x6a, 0xa7,
    0x53, 0xc5, 0x44, 0x49, 0xa5, 0xf9, 0x36, 0x72, 0x3d, 0x2c, 0xd9, 0x1b, 0xa1, 0xf5, 0x4f, 0x93,
    0x9d, 0x68, 0x47, 0x41, 0x16, 0xca, 0x2a, 0x4c, 0xa3, 0x87, 0xd6, 0xe5, 0x19, 0x2e, 0x77, 0x15,
    0x6d, 0x70, 0xc0, 0xdf, 0xb2, 0x00, 0x46, 0xed, 0xc6, 0x6c, 0x43, 0x60, 0x92, 0x2d, 0xa9, 0x22,
    0x45, 0x8f, 0x34, 0x55, 0xae, 0xa4, 0x0a, 0x66, 0x32, 0xe0, 0xdc, 0x02, 0xac, 0xe8, 0x20, 0x8c,
    0x89, 0x62, 0x4a, 0xfe, 0xee, 0xc3, 0xe3, 0x3c, 0xf1, 0x79, 0x05, 0xe9, 0xf6, 0x27, 0x33, 0xcc,
    0xf2, 0x9e, 0x11, 0x81, 0x7e, 0x80, 0x10, 0x8a, 0x82, 0x9f, 0x48, 0x0d, 0xd7, 0xb4, 0xfc, 0x2f,
    0xb5, 0xc7, 0xdd, 0x88, 0x14, 0x6b, 0x2b, 0x54, 0xea, 0x1d, 0x94, 0x5c, 0xb0, 0xef, 0x12, 0x24,
    0xcd, 0xeb, 0xe1, 0xe2, 0x64, 0x73, 0x3f, 0x0e, 0x52, 0x61, 0x25, 0x3e, 0xf8, 0x0f, 0x4b, 0xec],
  [
    0xc0, 0x00, 0x30, 0xf6, 0x02, 0x49, 0x3d, 0x10, 0x6e, 0x20, 0xc9, 0xa6, 0x2f, 0xfe, 0x2c, 0x2b,
    0x75, 0x2e, 0x45, 0x26, 0xab, 0x48, 0xa9, 0x80, 0xfc, 0x04, 0xcc, 0xd3, 0xb5, 0xba, 0xa3, 0x38,
    0x31, 0x7d, 0x01, 0xd9, 0xa7, 0x7b, 0x96, 0xb6, 0x63, 0x69, 0x4e, 0xf7, 0xde, 0xe0, 0x78, 0xca,
    0x50, 0xaa, 0x41, 0x91, 0x65, 0x88, 0xe4, 0x21, 0x85, 0xda, 0x3a, 0x27, 0xbe, 0x1c, 0x3e, 0x42,
    0x5e, 0x17, 0x52, 0x7f, 0x1f, 0x89, 0x24, 0x6f, 0x8f, 0x5c, 0x67, 0x74, 0x0e, 0x12, 0x87, 0x8d,
    0xe9, 0x34, 0xed, 0x73, 0xc4, 0xf8, 0x61, 0x5b, 0x05, 0xdf, 0x59, 0x4c, 0x97, 0x79, 0x83, 0x18,
    0xa4, 0x55, 0x95, 0xeb, 0xbd, 0x53, 0xf5, 0xf1, 0x57, 0x66, 0x46, 0x9f, 0xb2, 0x81, 0x09, 0x51,
    0x86, 0x22, 0x16, 0xdd, 0x23, 0x93, 0x76, 0x29, 0xc2, 0xd7, 0x1d, 0xd4, 0xbf, 0x36, 0x3f, 0xea,
    0x4b, 0x11, 0x32, 0xb9, 0x62, 0x54, 0x60, 0xd6, 0x6d, 0x43, 0x9a, 0x0d, 0x92, 0x9c, 0xb0, 0xef,
    0x58, 0x6c, 0x9d, 0x77, 0x2d, 0x70, 0xfa, 0xf3, 0xb3, 0x0b, 0xe2, 0x40, 0x7e, 0xf4, 0x8a, 0xe5,
    0x8c, 0x3c, 0x56, 0x71, 0xd1, 0x64, 0xe1, 0x82, 0x0a, 0xcb, 0x13, 0x15, 0x90, 0xec, 0x03, 0x99,
    0xaf, 0x14, 0x5d, 0x0f, 0x33, 0x4a, 0x94, 0xa5, 0xa8, 0x35, 0x1b, 0xe3, 0x6a, 0xc6, 0x28, 0xff,
    0x4d, 0xe7, 0x25, 0x84, 0xac, 0x08, 0xae, 0xc5, 0xa2, 0x2a, 0xb8, 0x37, 0x0c, 0x7a, 0xa0, 0xc3,
    0xce, 0xad, 0x06, 0x1a, 0x9e, 0x8b, 0xfb, 0xd5, 0xf0, 0xc1, 0x1e, 0xd0, 0xb4, 0x9b, 0xb1, 0x44,
    0xf2, 0x47, 0xc7, 0x68, 0xcf, 0x72, 0xbb, 0x4f, 0x5a, 0xf9, 0xdc, 0x6b, 0xdb, 0xd2, 0xe8, 0x7c,
    0xc8, 0xee, 0x98, 0xa1, 0xe6, 0xd8, 0x39, 0x07, 0x5f, 0xfd, 0x8e, 0x19, 0xb7, 0x3b, 0xbc, 0xcd],
  [
    0x7c, 0xe3, 0x81, 0x73, 0xb2, 0x11, 0xbf, 0x6f, 0x20, 0x98, 0xfe, 0x75, 0x96, 0xef, 0x6c, 0xda,
    0x50, 0xe1, 0x09, 0x72, 0x54, 0x45, 0xba, 0x34, 0x80, 0x5b, 0xed, 0x3e, 0x53, 0x2c, 0x87, 0xa4,
    0x57, 0xf3, 0x33, 0x3f, 0x3c, 0xb7, 0x67, 0xb4, 0xa3, 0x25, 0x60, 0x4f, 0x07, 0x6b, 0x1b, 0x47,
    0x15, 0x0f, 0xe4, 0x0a, 0xea, 0xd1, 0x32, 0x78, 0x36, 0x49, 0x8d, 0x4b, 0xd2, 0xbc, 0xa5, 0xdc,
    0x1d, 0x0d, 0x4d, 0xcd, 0x9a, 0x82, 0x5f, 0xfc, 0x94, 0x65, 0xbe, 0xe2, 0xf4, 0xc9, 0x1e, 0x44,
    0xcb, 0x9e, 0x0c, 0x64, 0x71, 0x26, 0x63, 0xb3, 0x14, 0xe8, 0x40, 0x70, 0x8a, 0x0e, 0x19, 0x42,
    0x6d, 0xac, 0x88, 0x10, 0x5c, 0xdf, 0x41, 0xa9, 0xad, 0xe5, 0xfb, 0x74, 0xcc, 0xd5, 0x06, 0x8e,
    0x59, 0x86, 0xce, 0x1f, 0x3d, 0x76, 0xe0, 0x8f, 0xb9, 0x77, 0x27, 0x7b, 0xa6, 0xd8, 0x29, 0xd3,
    0xec, 0xb8, 0x13, 0xf7, 0xfa, 0xc3, 0x51, 0x6a, 0xde, 0x4a, 0x5a, 0xeb, 0xc2, 0x8b, 0x23, 0x48,
    0x92, 0xcf, 0x62, 0xa8, 0x99, 0xf8, 0xd0, 0x2e, 0x85, 0x61, 0x43, 0xc8, 0xbd, 0xf0, 0x05, 0x93,
    0xca, 0x4e, 0xf1, 0x7d, 0x30, 0xfd, 0xc4, 0x69, 0x66, 0x2f, 0x08, 0xb1, 0x52, 0xf9, 0x21, 0xe6,
    0x7a, 0x2b, 0xdd, 0x39, 0x84, 0xff, 0xc0, 0x91, 0xd6, 0x37, 0xd4, 0x7f, 0x2d, 0x9b, 0x5d, 0xa1,
    0x3b, 0x6e, 0xb5, 0xc5, 0x46, 0x04, 0xf5, 0x90, 0xee, 0x7e, 0x83, 0x1c, 0x03, 0x56, 0xb6, 0xaa,
    0x00, 0x17, 0x01, 0x35, 0x55, 0x79, 0x0b, 0x12, 0xbb, 0x1a, 0x31, 0xe7, 0x02, 0x28, 0x16, 0xc1,
    0xf6, 0xa2, 0xdb, 0x18, 0x9c, 0x89, 0x68, 0x38, 0x97, 0xab, 0xc7, 0x2a, 0xd7, 0x3a, 0xf2, 0xc6,
    0x24, 0x4c, 0xb0, 0x58, 0xa0, 0x22, 0x5e, 0x9d, 0xd9, 0xa7, 0xe9, 0xae, 0xaf, 0x8c, 0x95, 0x9f],
  [
    0x28, 0xb7, 0x20, 0xd7, 0xb0, 0x30, 0xc3, 0x09, 0x19, 0xc0, 0x67, 0xd6, 0x00, 0x3c, 0x7e, 0xe7,
    0xe9, 0xf4, 0x08, 0x5a, 0xf8, 0xb8, 0x2e, 0x05, 0xa6, 0x25, 0x9e, 0x5c, 0xd8, 0x15, 0x0d, 0xe1,
    0xf6, 0x11, 0x54, 0x6b, 0xcd, 0x21, 0x46, 0x66, 0x5e, 0x84, 0xad, 0x06, 0x38, 0x29, 0x44, 0xc5,
    0xa2, 0xce, 0xf1, 0xaa, 0xc1, 0x40, 0x71, 0x86, 0xb5, 0xef, 0xfc, 0x36, 0xa8, 0xcb, 0x0a, 0x48,
    0x27, 0x45, 0x64, 0xa3, 0xaf, 0x8c, 0xb2, 0xc6, 0x9f, 0x07, 0x89, 0xdc, 0x17, 0xd3, 0x49, 0x79,
    0xfb, 0xfe, 0x1d, 0xd0, 0xb9, 0x88, 0x43, 0x52, 0xbc, 0x01, 0x78, 0x2b, 0x7d, 0x94, 0xc7, 0x0e,
    0xde, 0xa5, 0xd5, 0x9b, 0xcc, 0xf7, 0x61, 0x7a, 0xc2, 0x74, 0x81, 0x39, 0x03, 0xab, 0x96, 0xa0,
    0x37, 0xbd, 0x2d, 0x72, 0x75, 0x3f, 0xc9, 0xd4, 0x8e, 0x6f, 0xf9, 0x8d, 0xed, 0x62, 0xdb, 0x1c,
    0xdf, 0x04, 0xac, 0x1b, 0x6c, 0x14, 0x4b, 0x63, 0xf0, 0xbf, 0xb4, 0x82, 0xec, 0x7b, 0x1a, 0x59,
    0x92, 0xd2, 0x10, 0x60, 0xb6, 0x3d, 0x5f, 0xe6, 0x80, 0x6e, 0x70, 0xc4, 0xf2, 0x35, 0xd9, 0x7c,
    0xee, 0xe5, 0x41, 0xa4, 0x5b, 0x50, 0xdd, 0xbb, 0x4c, 0xf3, 0x1f, 0x9d, 0x5d, 0x57, 0x55, 0x51,
    0x97, 0xe3, 0x58, 0x42, 0x4d, 0x9c, 0x73, 0xba, 0xc8, 0x77, 0x31, 0x69, 0x26, 0xae, 0xea, 0x8a,
    0xda, 0x22, 0xb3, 0x87, 0x56, 0xfa, 0x93, 0x0b, 0x34, 0x16, 0x33, 0xe8, 0xe4, 0x53, 0xbe, 0xa9,
    0xb1, 0x3a, 0x3e, 0xf5, 0x90, 0x6a, 0xcf, 0x3b, 0x12, 0xfd, 0x8f, 0x9a, 0xa7, 0x47, 0x91, 0x99,
    0xeb, 0x0f, 0x24, 0xff, 0x23, 0x18, 0x85, 0x4e, 0x7f, 0x0c, 0xe0, 0xa1, 0xe2, 0xd1, 0x2c, 0x2a,
    0x4a, 0x02, 0x4f, 0x1e, 0x95, 0x68, 0x8b, 0x98, 0x83, 0x6d, 0x76, 0xca, 0x65, 0x32, 0x13, 0x2f],
  [
    0xc3, 0x82, 0x9a, 0xa4, 0xba, 0x81, 0x60, 0x37, 0x34, 0x35, 0xfc, 0x80, 0xa8, 0x51, 0x65, 0x67,
    0xed, 0x30, 0x5f, 0x10, 0xd3, 0x4a, 0x27, 0x2f, 0x13, 0xb9, 0x2a, 0xd2, 0xcc, 0xe1, 0xef, 0xae,
    0xeb, 0xbe, 0xf4, 0xbd, 0xcf, 0x43, 0xb3, 0xc5, 0x88, 0x84, 0xb7, 0xdd, 0x39, 0x40, 0xce, 0x48,
    0x6d, 0x9b, 0x72, 0x61, 0x7e, 0xe7, 0xa1, 0x4e, 0x53, 0x2e, 0x77, 0x3b, 0xe2, 0xc9, 0x36, 0x22,
    0x1b, 0x6e, 0x73, 0xb1, 0x03, 0xb2, 0x4c, 0x87, 0xa9, 0xd4, 0x4d, 0x0f, 0xd8, 0x15, 0x6c, 0xaa,
    0x18, 0xf6, 0x49, 0x57, 0x5d, 0xfb, 0x7a, 0x14, 0x94, 0x63, 0xa0, 0x11, 0xb0, 0x9e, 0xde, 0x05,
    0x46, 0xc8, 0xee, 0x47, 0xdb, 0xdc, 0x24, 0x89, 0x9c, 0x91, 0x97, 0x29, 0xe9, 0x7b, 0xc1, 0x07,
    0x1e, 0xb8, 0xfd, 0xfe, 0xac, 0xc6, 0x62, 0x98, 0x4f, 0xf1, 0x79, 0xe0, 0xe8, 0x6b, 0x78, 0x56,
    0xb6, 0x8d, 0x04, 0x50, 0x86, 0xca, 0x6f, 0x20, 0xe6, 0xea, 0xe5, 0x76, 0x17, 0x1c, 0x74, 0x7f,
    0xbc, 0x0d, 0x2c, 0x85, 0xf7, 0x66, 0x96, 0xe4, 0x8b, 0x75, 0x3f, 0x4b, 0xd9, 0x38, 0xaf, 0x7c,
    0xda, 0x0b, 0x83, 0x2d, 0x31, 0x32, 0xa2, 0xf5, 0x1d, 0x59, 0x41, 0x45, 0xbf, 0x3c, 0x1f, 0xf8,
    0xf9, 0x8a, 0xd0, 0x16, 0x25, 0x69, 0x12, 0x99, 0x9d, 0x21, 0x95, 0xab, 0x01, 0xa6, 0xd7, 0xb5,
    0xc0, 0x7d, 0xff, 0x58, 0x0e, 0x3a, 0x92, 0xd1, 0x55, 0xe3, 0x08, 0x9f, 0xd6, 0x3e, 0x52, 0x8e,
    0xfa, 0xa3, 0xc7, 0x02, 0xcd, 0xdf, 0x8f, 0x64, 0x19, 0x8c, 0xf3, 0xa7, 0x0c, 0x5e, 0x0a, 0x6a,
    0x09, 0xf0, 0x93, 0x5b, 0x42, 0xc2, 0x06, 0x23, 0xec, 0x71, 0xad, 0xb4, 0xcb, 0xbb, 0x70, 0x28,
    0xd5, 0x1a, 0x5c, 0x33, 0x68, 0x5a, 0x00, 0x44, 0x90, 0xa5, 0xc4, 0x26, 0x3d, 0x2b, 0xf2, 0x54],
  [
    0x96, 0xad, 0xda, 0x1f, 0xed, 0x33, 0xe1, 0x81, 0x69, 0x08, 0x0d, 0x0a, 0xdb, 0x35, 0x77, 0x9a,
    0x64, 0xd1, 0xfc, 0x78, 0xaa, 0x1b, 0xd0, 0x67, 0xa0, 0xdd, 0xfa, 0x6c, 0x63, 0x71, 0x05, 0x84,
    0x17, 0x6a, 0x89, 0x4f, 0x66, 0x7f, 0xc6, 0x50, 0x55, 0x92, 0x6f, 0xbd, 0xe7, 0xd2, 0x40, 0x72,
    0x8d, 0xbb, 0xec, 0x06, 0x42, 0x8a, 0xe4, 0x88, 0x9d, 0x7e, 0x7a, 0x82, 0x27, 0x13, 0x41, 0x1a,
    0xaf, 0xc8, 0xa4, 0x76, 0xb4, 0xc2, 0xfe, 0x6d, 0x1c, 0xd9, 0x61, 0x30, 0xb3, 0x7c, 0xea, 0xf7,
    0x29, 0x0f, 0xf2, 0x3b, 0x51, 0xc1, 0xde, 0x5f, 0xe5, 0x2a, 0x2f, 0x99, 0x0b, 0x5d, 0xa3, 0x2b,
    0x4a, 0xab, 0x95, 0xa5, 0xd3, 0x58, 0x56, 0xee, 0x28, 0x31, 0x00, 0xcc, 0x15, 0x46, 0xca, 0xe6,
    0x86, 0x38, 0x3c, 0x65, 0xf5, 0xe3, 0x9f, 0xd6, 0x5b, 0x09, 0x49, 0x83, 0x70, 0x2d, 0x53, 0xa9,
    0x7d, 0xe2, 0xc4, 0xac, 0x8e, 0x5e, 0xb8, 0x25, 0xf4, 0xb9, 0x57, 0xf3, 0xf1, 0x68, 0x47, 0xb2,
    0xa2, 0x59, 0x20, 0xce, 0x34, 0x79, 0x5c, 0x90, 0x0e, 0x1e, 0xbe, 0xd5, 0x22, 0x23, 0xb1, 0xc9,
    0x18, 0x62, 0x16, 0x2e, 0x91, 0x3e, 0x07, 0x8f, 0xd8, 0x3f, 0x93, 0x3d, 0xd4, 0x9b, 0xdf, 0x85,
    0x21, 0xfb, 0x11, 0x74, 0x97, 0xc7, 0xd7, 0xdc, 0x4c, 0x19, 0x45, 0x98, 0xe9, 0x43, 0x02, 0x4b,
    0xbc, 0xc3, 0x04, 0x9c, 0x6b, 0xf0, 0x75, 0x52, 0xa7, 0x26, 0xf6, 0xc5, 0xba, 0xcf, 0xb0, 0xb7,
    0xae, 0x5a, 0xa1, 0xbf, 0x03, 0x8b, 0x80, 0x12, 0x6e, 0x0c, 0xeb, 0xf9, 0xc0, 0x44, 0x24, 0xef,
    0x10, 0xf8, 0xa8, 0x8c, 0xe8, 0x7b, 0xff, 0x9e, 0x2c, 0xcd, 0x60, 0x36, 0x87, 0xb5, 0x94, 0xa6,
    0x54, 0x73, 0x3a, 0x14, 0x4e, 0x01, 0x1d, 0xb6, 0xfd, 0x37, 0x48, 0x4d, 0x39, 0xcb, 0xe0, 0x32]]

/-- Byte `j` of the table at index `idx`. Reads behind the eight tables find whatever `memory`
holds there. -/
def sbox1stParty (memory : Nat → UInt8) (idx j : Nat) : UInt8 :=
  match sboxes1stParty[idx]? with
  | some table => table.getD j 0
  | none => memory (256 * (idx - sboxes1stParty.length) + j)

def ror8 (word : UInt8) (shift : UInt8) : UInt8 :=
  let shift := shift.toNat % 8
  UInt8.ofNat (word.toNat / 2 ^ shift ||| word.toNat * 2 ^ (8 - shift))

def ansTbl : List (List UInt8) := [
  [0xa8, 0x77, 0xa6, 0xe0, 0xf7, 0x43],
  [0x5a, 0x35, 0x85, 0xe2, 0x72, 0x97],
  [0x8f, 0xb7, 0x1a, 0x62, 0x87, 0x38],
  [0x0d, 0x67, 0xc7, 0xbe, 0x4f, 0x3e],
  [0x20, 0x76, 0x37, 0x8f, 0x68, 0xb7],
  [0xa9, 0x26, 0x3f, 0x2b, 0x10, 0xe3],
  [0x30, 0x7e, 0x90, 0x0e, 0x85, 0x0a]]

def generateKeyData (rand : List UInt8) (ans : List UInt8) : List UInt8 :=
  let t0 (n : Nat) : UInt8 := keygenSbox1stParty.getD (rand.getD n 0).toNat 0
  let a (n : Nat) : UInt8 := ans.getD n 0
  [(ror8 (a 0 ^^^ t0 5) (t0 2) - t0 9) ^^^ t0 4,
   (ror8 (a 1 ^^^ t0 1) (t0 0) - t0 5) ^^^ t0 7,
   (ror8 (a 2 ^^^ t0 6) (t0 8) - t0 2) ^^^ t0 0,
   (ror8 (a 3 ^^^ t0 4) (t0 7) - t0 3) ^^^ t0 2,
   (ror8 (a 4 ^^^ t0 1) (t0 6) - t0 3) ^^^ t0 4,
   (ror8 (a 5 ^^^ t0 7) (t0 8) - t0 5) ^^^ t0 9]

structure WiimoteEncryptionKey where
  ft : List UInt8
  sb : List UInt8
  deriving DecidableEq, Repr

def WiimoteEncryptionKey.zero : WiimoteEncryptionKey :=
  ⟨List.replicate 8 0, List.replicate 8 0⟩

def generateTables (rand key : List UInt8) (sboxA sboxB : Nat → UInt8) : WiimoteEncryptionKey :=
  let r (n : Nat) : Nat := (rand.getD n 0).toNat
  let k (n : Nat) : Nat := (key.getD n 0).toNat
  { ft := [sboxA (k 4) ^^^ sboxB (r 3), sboxA (k 2) ^^^ sboxB (r 5),
      sboxA (k 5) ^^^ sboxB (r 7), sboxA (k 0) ^^^ sboxB (r 2),
      sboxA (k 1) ^^^ sboxB (r 4), sboxA (k 3) ^^^ sboxB (r 9),
      sboxA (r 0) ^^^ sboxB (r 6), sboxA (r 1) ^^^ sboxB (r 8)]
    sb := [sboxA (k 0) ^^^ sboxB (r 1), sboxA (k 5) ^^^ sboxB (r 4),
      sboxA (k 3) ^^^ sboxB (r 0), sboxA (k 2) ^^^ sboxB (r 9),
      sboxA (k 4) ^^^ sboxB (r 7), sboxA (k 1) ^^^ sboxB (r 8),
      sboxA (r 3) ^^^ sboxB (r 5), sboxA (r 2) ^^^ sboxB (r 6)] }

/-- The index at which the search over the answers stops, 7 when none of them matches. -/
def keyAnswerIndex (rand key : List UInt8) : Nat :=
  ansTbl.findIdx fun ans => generateKeyData rand ans == key

def wiimoteCryptoGenerateKeyFromExtensionKeyData (memory : Nat → UInt8)
    (keyData : List UInt8) : WiimoteEncryptionKey :=
  let rand := (keyData.take 10).reverse
  let key := ((keyData.drop 10).take 6).reverse
  let idx := keyAnswerIndex rand key
  generateTables rand key (sbox1stParty memory idx) (sbox1stParty memory (idx + 1))

def wiimoteCryptoEncrypt (key : WiimoteEncryptionKey) (addr : Nat) (data : List UInt8) :
    List UInt8 :=
  data.mapIdx fun i byte =>
    (byte - key.ft.getD ((addr + i) % 8) 0) ^^^ key.sb.getD ((addr + i) % 8) 0

end Fakemote

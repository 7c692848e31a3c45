import Prelaunch.Text.Casing

/-!
The characters of a domain name for each of which one other character is put.
-/

namespace Prelaunch.Url.Idna

open Prelaunch.Text

def runsBelow2000 : List CaseRun := [
  ⟨0x41, 0x5A, 1, 32⟩, ⟨0xA0, 0xA0, 1, -128⟩, ⟨0xAA, 0xAA, 1, -73⟩, ⟨0xB2, 0xB3, 1, -128⟩,
  ⟨0xB5, 0xB5, 1, 775⟩, ⟨0xB9, 0xB9, 1, -136⟩, ⟨0xBA, 0xBA, 1, -75⟩, ⟨0xC0, 0xD6, 1, 32⟩,
  ⟨0xD8, 0xDE, 1, 32⟩, ⟨0x100, 0x12E, 2, 1⟩, ⟨0x134, 0x136, 2, 1⟩, ⟨0x139, 0x13D, 2, 1⟩,
  ⟨0x141, 0x147, 2, 1⟩, ⟨0x14A, 0x176, 2, 1⟩, ⟨0x178, 0x178, 1, -121⟩, ⟨0x179, 0x17D, 2, 1⟩,
  ⟨0x17F, 0x17F, 1, -268⟩, ⟨0x181, 0x181, 1, 210⟩, ⟨0x182, 0x184, 2, 1⟩, ⟨0x186, 0x186, 1, 206⟩,
  ⟨0x187, 0x187, 1, 1⟩, ⟨0x189, 0x18A, 1, 205⟩, ⟨0x18B, 0x18B, 1, 1⟩, ⟨0x18E, 0x18E, 1, 79⟩,
  ⟨0x18F, 0x18F, 1, 202⟩, ⟨0x190, 0x190, 1, 203⟩, ⟨0x191, 0x191, 1, 1⟩, ⟨0x193, 0x193, 1, 205⟩,
  ⟨0x194, 0x194, 1, 207⟩, ⟨0x196, 0x196, 1, 211⟩, ⟨0x197, 0x197, 1, 209⟩, ⟨0x198, 0x198, 1, 1⟩,
  ⟨0x19C, 0x19C, 1, 211⟩, ⟨0x19D, 0x19D, 1, 213⟩, ⟨0x19F, 0x19F, 1, 214⟩, ⟨0x1A0, 0x1A4, 2, 1⟩,
  ⟨0x1A6, 0x1A6, 1, 218⟩, ⟨0x1A7, 0x1A7, 1, 1⟩, ⟨0x1A9, 0x1A9, 1, 218⟩, ⟨0x1AC, 0x1AC, 1, 1⟩,
  ⟨0x1AE, 0x1AE, 1, 218⟩, ⟨0x1AF, 0x1AF, 1, 1⟩, ⟨0x1B1, 0x1B2, 1, 217⟩, ⟨0x1B3, 0x1B5, 2, 1⟩,
  ⟨0x1B7, 0x1B7, 1, 219⟩, ⟨0x1B8, 0x1BC, 4, 1⟩, ⟨0x1CD, 0x1DB, 2, 1⟩, ⟨0x1DE, 0x1EE, 2, 1⟩,
  ⟨0x1F4, 0x1F4, 1, 1⟩, ⟨0x1F6, 0x1F6, 1, -97⟩, ⟨0x1F7, 0x1F7, 1, -56⟩, ⟨0x1F8, 0x21E, 2, 1⟩,
  ⟨0x220, 0x220, 1, -130⟩, ⟨0x222, 0x232, 2, 1⟩, ⟨0x23A, 0x23A, 1, 10795⟩, ⟨0x23B, 0x23B, 1, 1⟩,
  ⟨0x23D, 0x23D, 1, -163⟩, ⟨0x23E, 0x23E, 1, 10792⟩, ⟨0x241, 0x241, 1, 1⟩, ⟨0x243, 0x243, 1, -195⟩,
  ⟨0x244, 0x244, 1, 69⟩, ⟨0x245, 0x245, 1, 71⟩, ⟨0x246, 0x24E, 2, 1⟩, ⟨0x2B0, 0x2B0, 1, -584⟩,
  ⟨0x2B1, 0x2B1, 1, -75⟩, ⟨0x2B2, 0x2B2, 1, -584⟩, ⟨0x2B3, 0x2B3, 1, -577⟩, ⟨0x2B4, 0x2B4, 1, -59⟩,
  ⟨0x2B5, 0x2B5, 1, -58⟩, ⟨0x2B6, 0x2B6, 1, -53⟩, ⟨0x2B7, 0x2B7, 1, -576⟩, ⟨0x2B8, 0x2B8, 1, -575⟩,
  ⟨0x2E0, 0x2E0, 1, -125⟩, ⟨0x2E1, 0x2E1, 1, -629⟩, ⟨0x2E2, 0x2E2, 1, -623⟩,
  ⟨0x2E3, 0x2E3, 1, -619⟩, ⟨0x2E4, 0x2E4, 1, -79⟩, ⟨0x340, 0x341, 1, -64⟩, ⟨0x343, 0x343, 1, -48⟩,
  ⟨0x345, 0x345, 1, 116⟩, ⟨0x370, 0x372, 2, 1⟩, ⟨0x374, 0x374, 1, -187⟩, ⟨0x376, 0x376, 1, 1⟩,
  ⟨0x37E, 0x37E, 1, -835⟩, ⟨0x37F, 0x37F, 1, 116⟩, ⟨0x386, 0x386, 1, 38⟩, ⟨0x387, 0x387, 1, -720⟩,
  ⟨0x388, 0x38A, 1, 37⟩, ⟨0x38C, 0x38C, 1, 64⟩, ⟨0x38E, 0x38F, 1, 63⟩, ⟨0x391, 0x3A1, 1, 32⟩,
  ⟨0x3A3, 0x3AB, 1, 32⟩, ⟨0x3CF, 0x3CF, 1, 8⟩, ⟨0x3D0, 0x3D0, 1, -30⟩, ⟨0x3D1, 0x3D1, 1, -25⟩,
  ⟨0x3D2, 0x3D2, 1, -13⟩, ⟨0x3D3, 0x3D3, 1, -6⟩, ⟨0x3D4, 0x3D4, 1, -9⟩, ⟨0x3D5, 0x3D5, 1, -15⟩,
  ⟨0x3D6, 0x3D6, 1, -22⟩, ⟨0x3D8, 0x3EE, 2, 1⟩, ⟨0x3F0, 0x3F0, 1, -54⟩, ⟨0x3F1, 0x3F1, 1, -48⟩,
  ⟨0x3F2, 0x3F2, 1, -47⟩, ⟨0x3F4, 0x3F4, 1, -60⟩, ⟨0x3F5, 0x3F5, 1, -64⟩, ⟨0x3F7, 0x3F7, 1, 1⟩,
  ⟨0x3F9, 0x3F9, 1, -54⟩, ⟨0x3FA, 0x3FA, 1, 1⟩, ⟨0x3FD, 0x3FF, 1, -130⟩, ⟨0x400, 0x40F, 1, 80⟩,
  ⟨0x410, 0x42F, 1, 32⟩, ⟨0x460, 0x480, 2, 1⟩, ⟨0x48A, 0x4BE, 2, 1⟩, ⟨0x4C0, 0x4C0, 1, 15⟩,
  ⟨0x4C1, 0x4CD, 2, 1⟩, ⟨0x4D0, 0x52E, 2, 1⟩, ⟨0x531, 0x556, 1, 48⟩, ⟨0xF0C, 0xF0C, 1, -1⟩,
  ⟨0x10A0, 0x10C5, 1, 7264⟩, ⟨0x10C7, 0x10C7, 1, 7264⟩, ⟨0x10CD, 0x10CD, 1, 7264⟩,
  ⟨0x10FC, 0x10FC, 1, -32⟩, ⟨0x13F8, 0x13FD, 1, -8⟩, ⟨0x1C80, 0x1C80, 1, -6222⟩,
  ⟨0x1C81, 0x1C81, 1, -6221⟩, ⟨0x1C82, 0x1C82, 1, -6212⟩, ⟨0x1C83, 0x1C84, 1, -6210⟩,
  ⟨0x1C85, 0x1C85, 1, -6211⟩, ⟨0x1C86, 0x1C86, 1, -6204⟩, ⟨0x1C87, 0x1C87, 1, -6180⟩,
  ⟨0x1C88, 0x1C88, 1, 35267⟩, ⟨0x1C89, 0x1C89, 1, 1⟩, ⟨0x1C90, 0x1CBA, 1, -3008⟩,
  ⟨0x1CBD, 0x1CBF, 1, -3008⟩, ⟨0x1D2C, 0x1D2C, 1, -7371⟩, ⟨0x1D2D, 0x1D2D, 1, -7239⟩,
  ⟨0x1D2E, 0x1D30, 2, -7372⟩, ⟨0x1D31, 0x1D31, 1, -7372⟩, ⟨0x1D32, 0x1D32, 1, -6997⟩,
  ⟨0x1D33, 0x1D3A, 1, -7372⟩, ⟨0x1D3C, 0x1D3C, 1, -7373⟩, ⟨0x1D3D, 0x1D3D, 1, -6938⟩,
  ⟨0x1D3E, 0x1D3E, 1, -7374⟩, ⟨0x1D3F, 0x1D3F, 1, -7373⟩, ⟨0x1D40, 0x1D41, 1, -7372⟩,
  ⟨0x1D42, 0x1D42, 1, -7371⟩, ⟨0x1D43, 0x1D43, 1, -7394⟩, ⟨0x1D44, 0x1D45, 1, -6900⟩,
  ⟨0x1D46, 0x1D46, 1, -68⟩, ⟨0x1D47, 0x1D47, 1, -7397⟩, ⟨0x1D48, 0x1D49, 1, -7396⟩,
  ⟨0x1D4A, 0x1D4A, 1, -6897⟩, ⟨0x1D4B, 0x1D4C, 1, -6896⟩, ⟨0x1D4D, 0x1D4D, 1, -7398⟩,
  ⟨0x1D4F, 0x1D4F, 1, -7396⟩, ⟨0x1D50, 0x1D50, 1, -7395⟩, ⟨0x1D51, 0x1D51, 1, -7174⟩,
  ⟨0x1D52, 0x1D52, 1, -7395⟩, ⟨0x1D53, 0x1D53, 1, -6911⟩, ⟨0x1D54, 0x1D55, 1, -62⟩,
  ⟨0x1D56, 0x1D56, 1, -7398⟩, ⟨0x1D57, 0x1D58, 1, -7395⟩, ⟨0x1D59, 0x1D59, 1, -60⟩,
  ⟨0x1D5A, 0x1D5A, 1, -6891⟩, ⟨0x1D5B, 0x1D5B, 1, -7397⟩, ⟨0x1D5C, 0x1D5C, 1, -55⟩,
  ⟨0x1D5D, 0x1D5F, 1, -6571⟩, ⟨0x1D60, 0x1D61, 1, -6554⟩, ⟨0x1D62, 0x1D62, 1, -7417⟩,
  ⟨0x1D63, 0x1D63, 1, -7409⟩, ⟨0x1D64, 0x1D65, 1, -7407⟩, ⟨0x1D66, 0x1D67, 1, -6580⟩,
  ⟨0x1D68, 0x1D68, 1, -6567⟩, ⟨0x1D69, 0x1D6A, 1, -6563⟩, ⟨0x1D78, 0x1D78, 1, -6459⟩,
  ⟨0x1D9B, 0x1D9B, 1, -6985⟩, ⟨0x1D9C, 0x1D9C, 1, -7481⟩, ⟨0x1D9D, 0x1D9D, 1, -6984⟩,
  ⟨0x1D9E, 0x1D9E, 1, -7342⟩, ⟨0x1D9F, 0x1D9F, 1, -6979⟩, ⟨0x1DA0, 0x1DA0, 1, -7482⟩,
  ⟨0x1DA1, 0x1DA1, 1, -6978⟩, ⟨0x1DA2, 0x1DA2, 1, -6977⟩, ⟨0x1DA3, 0x1DA3, 1, -6974⟩,
  ⟨0x1DA4, 0x1DA6, 1, -6972⟩, ⟨0x1DA7, 0x1DA7, 1, -44⟩, ⟨0x1DA8, 0x1DA8, 1, -6923⟩,
  ⟨0x1DA9, 0x1DA9, 1, -6972⟩, ⟨0x1DAA, 0x1DAA, 1, -37⟩, ⟨0x1DAB, 0x1DAB, 1, -6924⟩,
  ⟨0x1DAC, 0x1DAC, 1, -6971⟩, ⟨0x1DAD, 0x1DAD, 1, -6973⟩, ⟨0x1DAE, 0x1DB1, 1, -6972⟩,
  ⟨0x1DB2, 0x1DB2, 1, -6970⟩, ⟨0x1DB3, 0x1DB4, 1, -6961⟩, ⟨0x1DB5, 0x1DB5, 1, -7178⟩,
  ⟨0x1DB6, 0x1DB7, 1, -6957⟩, ⟨0x1DB8, 0x1DB8, 1, -156⟩, ⟨0x1DB9, 0x1DBA, 1, -6958⟩,
  ⟨0x1DBB, 0x1DBB, 1, -7489⟩, ⟨0x1DBC, 0x1DBE, 1, -6956⟩, ⟨0x1DBF, 0x1DBF, 1, -6663⟩,
  ⟨0x1E00, 0x1E94, 2, 1⟩, ⟨0x1E9B, 0x1E9B, 1, -58⟩, ⟨0x1E9E, 0x1E9E, 1, -7615⟩,
  ⟨0x1EA0, 0x1EFE, 2, 1⟩, ⟨0x1F08, 0x1F0F, 1, -8⟩, ⟨0x1F18, 0x1F1D, 1, -8⟩, ⟨0x1F28, 0x1F2F, 1, -8⟩,
  ⟨0x1F38, 0x1F3F, 1, -8⟩, ⟨0x1F48, 0x1F4D, 1, -8⟩, ⟨0x1F59, 0x1F5F, 2, -8⟩,
  ⟨0x1F68, 0x1F6F, 1, -8⟩, ⟨0x1F71, 0x1F71, 1, -7109⟩, ⟨0x1F73, 0x1F73, 1, -7110⟩,
  ⟨0x1F75, 0x1F75, 1, -7111⟩, ⟨0x1F77, 0x1F77, 1, -7112⟩, ⟨0x1F79, 0x1F79, 1, -7085⟩,
  ⟨0x1F7B, 0x1F7B, 1, -7086⟩, ⟨0x1F7D, 0x1F7D, 1, -7087⟩, ⟨0x1FB8, 0x1FB9, 1, -8⟩,
  ⟨0x1FBA, 0x1FBA, 1, -74⟩, ⟨0x1FBB, 0x1FBB, 1, -7183⟩, ⟨0x1FBE, 0x1FBE, 1, -7173⟩,
  ⟨0x1FC8, 0x1FC8, 1, -86⟩, ⟨0x1FC9, 0x1FC9, 1, -7196⟩, ⟨0x1FCA, 0x1FCA, 1, -86⟩,
  ⟨0x1FCB, 0x1FCB, 1, -7197⟩, ⟨0x1FD3, 0x1FD3, 1, -7235⟩, ⟨0x1FD8, 0x1FD9, 1, -8⟩,
  ⟨0x1FDA, 0x1FDA, 1, -100⟩, ⟨0x1FDB, 0x1FDB, 1, -7212⟩, ⟨0x1FE3, 0x1FE3, 1, -7219⟩,
  ⟨0x1FE8, 0x1FE9, 1, -8⟩, ⟨0x1FEA, 0x1FEA, 1, -112⟩, ⟨0x1FEB, 0x1FEB, 1, -7198⟩,
  ⟨0x1FEC, 0x1FEC, 1, -7⟩, ⟨0x1FEF, 0x1FEF, 1, -8079⟩, ⟨0x1FF8, 0x1FF8, 1, -128⟩,
  ⟨0x1FF9, 0x1FF9, 1, -7213⟩, ⟨0x1FFA, 0x1FFA, 1, -126⟩, ⟨0x1FFB, 0x1FFB, 1, -7213⟩]

def runsBelowB000 : List CaseRun := [
  ⟨0x2000, 0x2000, 1, -8160⟩, ⟨0x2001, 0x2001, 1, -8161⟩, ⟨0x2002, 0x2002, 1, -8162⟩,
  ⟨0x2003, 0x2003, 1, -8163⟩, ⟨0x2004, 0x2004, 1, -8164⟩, ⟨0x2005, 0x2005, 1, -8165⟩,
  ⟨0x2006, 0x2006, 1, -8166⟩, ⟨0x2007, 0x2007, 1, -8167⟩, ⟨0x2008, 0x2008, 1, -8168⟩,
  ⟨0x2009, 0x2009, 1, -8169⟩, ⟨0x200A, 0x200A, 1, -8170⟩, ⟨0x2011, 0x2011, 1, -1⟩,
  ⟨0x202F, 0x202F, 1, -8207⟩, ⟨0x205F, 0x205F, 1, -8255⟩, ⟨0x2070, 0x2070, 1, -8256⟩,
  ⟨0x2071, 0x2071, 1, -8200⟩, ⟨0x2074, 0x2079, 1, -8256⟩, ⟨0x207A, 0x207A, 1, -8271⟩,
  ⟨0x207B, 0x207B, 1, 407⟩, ⟨0x207C, 0x207C, 1, -8255⟩, ⟨0x207D, 0x207E, 1, -8277⟩,
  ⟨0x207F, 0x207F, 1, -8209⟩, ⟨0x2080, 0x2089, 1, -8272⟩, ⟨0x208A, 0x208A, 1, -8287⟩,
  ⟨0x208B, 0x208B, 1, 391⟩, ⟨0x208C, 0x208C, 1, -8271⟩, ⟨0x208D, 0x208E, 1, -8293⟩,
  ⟨0x2090, 0x2090, 1, -8239⟩, ⟨0x2091, 0x2091, 1, -8236⟩, ⟨0x2092, 0x2092, 1, -8227⟩,
  ⟨0x2093, 0x2093, 1, -8219⟩, ⟨0x2094, 0x2094, 1, -7739⟩, ⟨0x2095, 0x2095, 1, -8237⟩,
  ⟨0x2096, 0x2099, 1, -8235⟩, ⟨0x209A, 0x209A, 1, -8234⟩, ⟨0x209B, 0x209C, 1, -8232⟩,
  ⟨0x2102, 0x2102, 1, -8351⟩, ⟨0x2107, 0x2107, 1, -7852⟩, ⟨0x210A, 0x210B, 1, -8355⟩,
  ⟨0x210C, 0x210C, 1, -8356⟩, ⟨0x210D, 0x210D, 1, -8357⟩, ⟨0x210E, 0x210E, 1, -8358⟩,
  ⟨0x210F, 0x210F, 1, -8168⟩, ⟨0x2110, 0x2110, 1, -8359⟩, ⟨0x2111, 0x2111, 1, -8360⟩,
  ⟨0x2112, 0x2112, 1, -8358⟩, ⟨0x2113, 0x2115, 2, -8359⟩, ⟨0x2119, 0x211B, 1, -8361⟩,
  ⟨0x211C, 0x211C, 1, -8362⟩, ⟨0x211D, 0x211D, 1, -8363⟩, ⟨0x2124, 0x2124, 1, -8362⟩,
  ⟨0x2126, 0x2126, 1, -7517⟩, ⟨0x2128, 0x2128, 1, -8366⟩, ⟨0x212A, 0x212A, 1, -8383⟩,
  ⟨0x212B, 0x212B, 1, -8262⟩, ⟨0x212C, 0x212D, 1, -8394⟩, ⟨0x212F, 0x212F, 1, -8394⟩,
  ⟨0x2130, 0x2131, 1, -8395⟩, ⟨0x2132, 0x2132, 1, 28⟩, ⟨0x2133, 0x2133, 1, -8390⟩,
  ⟨0x2134, 0x2134, 1, -8389⟩, ⟨0x2135, 0x2138, 1, -7013⟩, ⟨0x2139, 0x2139, 1, -8400⟩,
  ⟨0x213C, 0x213C, 1, -7548⟩, ⟨0x213D, 0x213D, 1, -7562⟩, ⟨0x213E, 0x213E, 1, -7563⟩,
  ⟨0x213F, 0x213F, 1, -7551⟩, ⟨0x2140, 0x2140, 1, 209⟩, ⟨0x2145, 0x2145, 1, -8417⟩,
  ⟨0x2146, 0x2147, 1, -8418⟩, ⟨0x2148, 0x2149, 1, -8415⟩, ⟨0x2160, 0x2160, 1, -8439⟩,
  ⟨0x2164, 0x2164, 1, -8430⟩, ⟨0x2169, 0x2169, 1, -8433⟩, ⟨0x216C, 0x216C, 1, -8448⟩,
  ⟨0x216D, 0x216E, 1, -8458⟩, ⟨0x216F, 0x216F, 1, -8450⟩, ⟨0x2170, 0x2170, 1, -8455⟩,
  ⟨0x2174, 0x2174, 1, -8446⟩, ⟨0x2179, 0x2179, 1, -8449⟩, ⟨0x217C, 0x217C, 1, -8464⟩,
  ⟨0x217D, 0x217E, 1, -8474⟩, ⟨0x217F, 0x217F, 1, -8466⟩, ⟨0x2183, 0x2183, 1, 1⟩,
  ⟨0x2329, 0x232A, 1, 3295⟩, ⟨0x2460, 0x2468, 1, -9263⟩, ⟨0x24B6, 0x24CF, 1, -9301⟩,
  ⟨0x24D0, 0x24E9, 1, -9327⟩, ⟨0x24EA, 0x24EA, 1, -9402⟩, ⟨0x2C00, 0x2C2F, 1, 48⟩,
  ⟨0x2C60, 0x2C60, 1, 1⟩, ⟨0x2C62, 0x2C62, 1, -10743⟩, ⟨0x2C63, 0x2C63, 1, -3814⟩,
  ⟨0x2C64, 0x2C64, 1, -10727⟩, ⟨0x2C67, 0x2C6B, 2, 1⟩, ⟨0x2C6D, 0x2C6D, 1, -10780⟩,
  ⟨0x2C6E, 0x2C6E, 1, -10749⟩, ⟨0x2C6F, 0x2C6F, 1, -10783⟩, ⟨0x2C70, 0x2C70, 1, -10782⟩,
  ⟨0x2C72, 0x2C75, 3, 1⟩, ⟨0x2C7C, 0x2C7C, 1, -11282⟩, ⟨0x2C7D, 0x2C7D, 1, -11271⟩,
  ⟨0x2C7E, 0x2C7F, 1, -10815⟩, ⟨0x2C80, 0x2CE2, 2, 1⟩, ⟨0x2CEB, 0x2CED, 2, 1⟩,
  ⟨0x2CF2, 0x2CF2, 1, 1⟩, ⟨0x2D6F, 0x2D6F, 1, -14⟩, ⟨0x3000, 0x3000, 1, -12256⟩,
  ⟨0x3002, 0x3002, 1, -12244⟩, ⟨0x3036, 0x3036, 1, -36⟩, ⟨0x3131, 0x3132, 1, -8241⟩,
  ⟨0x3133, 0x3133, 1, -8073⟩, ⟨0x3134, 0x3134, 1, -8242⟩, ⟨0x3135, 0x3136, 1, -8073⟩,
  ⟨0x3137, 0x3139, 1, -8244⟩, ⟨0x313A, 0x313F, 1, -8074⟩, ⟨0x3140, 0x3140, 1, -8230⟩,
  ⟨0x3141, 0x3143, 1, -8251⟩, ⟨0x3144, 0x3144, 1, -8227⟩, ⟨0x3145, 0x314E, 1, -8252⟩,
  ⟨0x314F, 0x3163, 1, -8174⟩, ⟨0x3165, 0x3166, 1, -8273⟩, ⟨0x3167, 0x3168, 1, -8096⟩,
  ⟨0x3169, 0x3169, 1, -8093⟩, ⟨0x316A, 0x316A, 1, -8092⟩, ⟨0x316B, 0x316B, 1, -8088⟩,
  ⟨0x316C, 0x316C, 1, -8085⟩, ⟨0x316D, 0x316D, 1, -8084⟩, ⟨0x316E, 0x316E, 1, -8274⟩,
  ⟨0x316F, 0x316F, 1, -8082⟩, ⟨0x3170, 0x3170, 1, -8081⟩, ⟨0x3171, 0x3172, 1, -8276⟩,
  ⟨0x3173, 0x3173, 1, -8275⟩, ⟨0x3174, 0x3175, 1, -8274⟩, ⟨0x3176, 0x3176, 1, -8271⟩,
  ⟨0x3177, 0x3177, 1, -8270⟩, ⟨0x3178, 0x317C, 1, -8269⟩, ⟨0x317D, 0x317D, 1, -8267⟩,
  ⟨0x317E, 0x317E, 1, -8264⟩, ⟨0x317F, 0x317F, 1, -8255⟩, ⟨0x3180, 0x3180, 1, -8249⟩,
  ⟨0x3181, 0x3181, 1, -8245⟩, ⟨0x3182, 0x3183, 1, -8081⟩, ⟨0x3184, 0x3186, 1, -8237⟩,
  ⟨0x3187, 0x3188, 1, -8195⟩, ⟨0x3189, 0x3189, 1, -8193⟩, ⟨0x318A, 0x318B, 1, -8185⟩,
  ⟨0x318C, 0x318C, 1, -8184⟩, ⟨0x318D, 0x318D, 1, -8175⟩, ⟨0x318E, 0x318E, 1, -8173⟩,
  ⟨0x3260, 0x3260, 1, -8544⟩, ⟨0x3261, 0x3262, 1, -8543⟩, ⟨0x3263, 0x3265, 1, -8542⟩,
  ⟨0x3266, 0x3266, 1, -8541⟩, ⟨0x3267, 0x3268, 1, -8540⟩, ⟨0x3269, 0x326D, 1, -8539⟩,
  ⟨0x326E, 0x326E, 1, 31122⟩, ⟨0x326F, 0x326F, 1, 32297⟩, ⟨0x3270, 0x3270, 1, 32884⟩,
  ⟨0x3271, 0x3271, 1, 34059⟩, ⟨0x3272, 0x3272, 1, 34646⟩, ⟨0x3273, 0x3273, 1, 35233⟩,
  ⟨0x3274, 0x3274, 1, 36408⟩, ⟨0x3275, 0x3275, 1, 37583⟩, ⟨0x3276, 0x3276, 1, 38170⟩,
  ⟨0x3277, 0x3277, 1, 39345⟩, ⟨0x3278, 0x3278, 1, 39932⟩, ⟨0x3279, 0x3279, 1, 40519⟩,
  ⟨0x327A, 0x327A, 1, 41106⟩, ⟨0x327B, 0x327B, 1, 41693⟩, ⟨0x327E, 0x327E, 1, 37938⟩,
  ⟨0x32D0, 0x32D0, 1, -558⟩, ⟨0x32D1, 0x32D1, 1, -557⟩, ⟨0x32D2, 0x32D2, 1, -556⟩,
  ⟨0x32D3, 0x32D3, 1, -555⟩, ⟨0x32D4, 0x32D5, 1, -554⟩, ⟨0x32D6, 0x32D6, 1, -553⟩,
  ⟨0x32D7, 0x32D7, 1, -552⟩, ⟨0x32D8, 0x32D8, 1, -551⟩, ⟨0x32D9, 0x32D9, 1, -550⟩,
  ⟨0x32DA, 0x32DA, 1, -549⟩, ⟨0x32DB, 0x32DB, 1, -548⟩, ⟨0x32DC, 0x32DC, 1, -547⟩,
  ⟨0x32DD, 0x32DD, 1, -546⟩, ⟨0x32DE, 0x32DE, 1, -545⟩, ⟨0x32DF, 0x32DF, 1, -544⟩,
  ⟨0x32E0, 0x32E0, 1, -543⟩, ⟨0x32E1, 0x32E1, 1, -541⟩, ⟨0x32E2, 0x32E2, 1, -540⟩,
  ⟨0x32E3, 0x32E3, 1, -539⟩, ⟨0x32E4, 0x32E9, 1, -538⟩, ⟨0x32EA, 0x32EA, 1, -536⟩,
  ⟨0x32EB, 0x32EB, 1, -534⟩, ⟨0x32EC, 0x32EC, 1, -532⟩, ⟨0x32ED, 0x32ED, 1, -530⟩,
  ⟨0x32EE, 0x32F2, 1, -528⟩, ⟨0x32F3, 0x32F3, 1, -527⟩, ⟨0x32F4, 0x32F4, 1, -526⟩,
  ⟨0x32F5, 0x32FA, 1, -525⟩, ⟨0x32FB, 0x32FE, 1, -524⟩, ⟨0xA640, 0xA66C, 2, 1⟩,
  ⟨0xA680, 0xA69A, 2, 1⟩, ⟨0xA69C, 0xA69C, 1, -41554⟩, ⟨0xA69D, 0xA69D, 1, -41553⟩,
  ⟨0xA722, 0xA72E, 2, 1⟩, ⟨0xA732, 0xA76E, 2, 1⟩, ⟨0xA770, 0xA770, 1, -1⟩, ⟨0xA779, 0xA77B, 2, 1⟩,
  ⟨0xA77D, 0xA77D, 1, -35332⟩, ⟨0xA77E, 0xA786, 2, 1⟩, ⟨0xA78B, 0xA78B, 1, 1⟩,
  ⟨0xA78D, 0xA78D, 1, -42280⟩, ⟨0xA790, 0xA792, 2, 1⟩, ⟨0xA796, 0xA7A8, 2, 1⟩,
  ⟨0xA7AA, 0xA7AA, 1, -42308⟩, ⟨0xA7AB, 0xA7AB, 1, -42319⟩, ⟨0xA7AC, 0xA7AC, 1, -42315⟩,
  ⟨0xA7AD, 0xA7AD, 1, -42305⟩, ⟨0xA7AE, 0xA7AE, 1, -42308⟩, ⟨0xA7B0, 0xA7B0, 1, -42258⟩,
  ⟨0xA7B1, 0xA7B1, 1, -42282⟩, ⟨0xA7B2, 0xA7B2, 1, -42261⟩, ⟨0xA7B3, 0xA7B3, 1, 928⟩,
  ⟨0xA7B4, 0xA7C2, 2, 1⟩, ⟨0xA7C4, 0xA7C4, 1, -48⟩, ⟨0xA7C5, 0xA7C5, 1, -42307⟩,
  ⟨0xA7C6, 0xA7C6, 1, -35384⟩, ⟨0xA7C7, 0xA7C9, 2, 1⟩, ⟨0xA7CB, 0xA7CB, 1, -42343⟩,
  ⟨0xA7CC, 0xA7DA, 2, 1⟩, ⟨0xA7DC, 0xA7DC, 1, -42561⟩, ⟨0xA7F1, 0xA7F1, 1, -42878⟩,
  ⟨0xA7F2, 0xA7F2, 1, -42895⟩, ⟨0xA7F3, 0xA7F3, 1, -42893⟩, ⟨0xA7F4, 0xA7F4, 1, -42883⟩,
  ⟨0xA7F5, 0xA7F5, 1, 1⟩, ⟨0xA7F8, 0xA7F8, 1, -42705⟩, ⟨0xA7F9, 0xA7F9, 1, -42662⟩,
  ⟨0xAB5C, 0xAB5C, 1, -1077⟩, ⟨0xAB5D, 0xAB5D, 1, -38⟩, ⟨0xAB5E, 0xAB5E, 1, -43251⟩,
  ⟨0xAB5F, 0xAB5F, 1, -13⟩, ⟨0xAB69, 0xAB69, 1, -43228⟩, ⟨0xAB70, 0xABBF, 1, -38864⟩]

def runsBelow1D500 : List CaseRun := [
  ⟨0xFB20, 0xFB20, 1, -62782⟩, ⟨0xFB21, 0xFB21, 1, -62801⟩, ⟨0xFB22, 0xFB23, 1, -62799⟩,
  ⟨0xFB24, 0xFB26, 1, -62793⟩, ⟨0xFB27, 0xFB27, 1, -62783⟩, ⟨0xFB28, 0xFB28, 1, -62782⟩,
  ⟨0xFB29, 0xFB29, 1, -64254⟩, ⟨0xFB50, 0xFB50, 1, -62687⟩, ⟨0xFB51, 0xFB51, 1, -62688⟩,
  ⟨0xFB52, 0xFB52, 1, -62679⟩, ⟨0xFB53, 0xFB53, 1, -62680⟩, ⟨0xFB54, 0xFB54, 1, -62681⟩,
  ⟨0xFB55, 0xFB55, 1, -62682⟩, ⟨0xFB56, 0xFB56, 1, -62680⟩, ⟨0xFB57, 0xFB57, 1, -62681⟩,
  ⟨0xFB58, 0xFB58, 1, -62682⟩, ⟨0xFB59, 0xFB59, 1, -62683⟩, ⟨0xFB5A, 0xFB5A, 1, -62682⟩,
  ⟨0xFB5B, 0xFB5B, 1, -62683⟩, ⟨0xFB5C, 0xFB5C, 1, -62684⟩, ⟨0xFB5D, 0xFB5D, 1, -62685⟩,
  ⟨0xFB5E, 0xFB5E, 1, -62692⟩, ⟨0xFB5F, 0xFB5F, 1, -62693⟩, ⟨0xFB60, 0xFB60, 1, -62694⟩,
  ⟨0xFB61, 0xFB61, 1, -62695⟩, ⟨0xFB62, 0xFB62, 1, -62691⟩, ⟨0xFB63, 0xFB63, 1, -62692⟩,
  ⟨0xFB64, 0xFB64, 1, -62693⟩, ⟨0xFB65, 0xFB65, 1, -62694⟩, ⟨0xFB66, 0xFB66, 1, -62701⟩,
  ⟨0xFB67, 0xFB67, 1, -62702⟩, ⟨0xFB68, 0xFB68, 1, -62703⟩, ⟨0xFB69, 0xFB69, 1, -62704⟩,
  ⟨0xFB6A, 0xFB6A, 1, -62662⟩, ⟨0xFB6B, 0xFB6B, 1, -62663⟩, ⟨0xFB6C, 0xFB6C, 1, -62664⟩,
  ⟨0xFB6D, 0xFB6D, 1, -62665⟩, ⟨0xFB6E, 0xFB6E, 1, -62664⟩, ⟨0xFB6F, 0xFB6F, 1, -62665⟩,
  ⟨0xFB70, 0xFB70, 1, -62666⟩, ⟨0xFB71, 0xFB71, 1, -62667⟩, ⟨0xFB72, 0xFB72, 1, -62702⟩,
  ⟨0xFB73, 0xFB73, 1, -62703⟩, ⟨0xFB74, 0xFB74, 1, -62704⟩, ⟨0xFB75, 0xFB75, 1, -62705⟩,
  ⟨0xFB76, 0xFB76, 1, -62707⟩, ⟨0xFB77, 0xFB77, 1, -62708⟩, ⟨0xFB78, 0xFB78, 1, -62709⟩,
  ⟨0xFB79, 0xFB79, 1, -62710⟩, ⟨0xFB7A, 0xFB7A, 1, -62708⟩, ⟨0xFB7B, 0xFB7B, 1, -62709⟩,
  ⟨0xFB7C, 0xFB7C, 1, -62710⟩, ⟨0xFB7D, 0xFB7E, 1, -62711⟩, ⟨0xFB7F, 0xFB7F, 1, -62712⟩,
  ⟨0xFB80, 0xFB80, 1, -62713⟩, ⟨0xFB81, 0xFB81, 1, -62714⟩, ⟨0xFB82, 0xFB82, 1, -62709⟩,
  ⟨0xFB83, 0xFB83, 1, -62710⟩, ⟨0xFB84, 0xFB84, 1, -62712⟩, ⟨0xFB85, 0xFB85, 1, -62713⟩,
  ⟨0xFB86, 0xFB86, 1, -62712⟩, ⟨0xFB87, 0xFB87, 1, -62713⟩, ⟨0xFB88, 0xFB88, 1, -62720⟩,
  ⟨0xFB89, 0xFB89, 1, -62721⟩, ⟨0xFB8A, 0xFB8A, 1, -62706⟩, ⟨0xFB8B, 0xFB8B, 1, -62707⟩,
  ⟨0xFB8C, 0xFB8C, 1, -62715⟩, ⟨0xFB8D, 0xFB8D, 1, -62716⟩, ⟨0xFB8E, 0xFB8E, 1, -62693⟩,
  ⟨0xFB8F, 0xFB8F, 1, -62694⟩, ⟨0xFB90, 0xFB90, 1, -62695⟩, ⟨0xFB91, 0xFB91, 1, -62696⟩,
  ⟨0xFB92, 0xFB92, 1, -62691⟩, ⟨0xFB93, 0xFB93, 1, -62692⟩, ⟨0xFB94, 0xFB94, 1, -62693⟩,
  ⟨0xFB95, 0xFB95, 1, -62694⟩, ⟨0xFB96, 0xFB96, 1, -62691⟩, ⟨0xFB97, 0xFB97, 1, -62692⟩,
  ⟨0xFB98, 0xFB98, 1, -62693⟩, ⟨0xFB99, 0xFB99, 1, -62694⟩, ⟨0xFB9A, 0xFB9A, 1, -62697⟩,
  ⟨0xFB9B, 0xFB9B, 1, -62698⟩, ⟨0xFB9C, 0xFB9C, 1, -62699⟩, ⟨0xFB9D, 0xFB9D, 1, -62700⟩,
  ⟨0xFB9E, 0xFB9E, 1, -62692⟩, ⟨0xFB9F, 0xFBA0, 1, -62693⟩, ⟨0xFBA1, 0xFBA1, 1, -62694⟩,
  ⟨0xFBA2, 0xFBA2, 1, -62695⟩, ⟨0xFBA3, 0xFBA3, 1, -62696⟩, ⟨0xFBA4, 0xFBA4, 1, -62692⟩,
  ⟨0xFBA5, 0xFBA6, 1, -62693⟩, ⟨0xFBA7, 0xFBA7, 1, -62694⟩, ⟨0xFBA8, 0xFBA8, 1, -62695⟩,
  ⟨0xFBA9, 0xFBA9, 1, -62696⟩, ⟨0xFBAA, 0xFBAA, 1, -62700⟩, ⟨0xFBAB, 0xFBAB, 1, -62701⟩,
  ⟨0xFBAC, 0xFBAC, 1, -62702⟩, ⟨0xFBAD, 0xFBAD, 1, -62703⟩, ⟨0xFBAE, 0xFBAE, 1, -62684⟩,
  ⟨0xFBAF, 0xFBB0, 1, -62685⟩, ⟨0xFBB1, 0xFBB1, 1, -62686⟩, ⟨0xFBD3, 0xFBD3, 1, -62758⟩,
  ⟨0xFBD4, 0xFBD4, 1, -62759⟩, ⟨0xFBD5, 0xFBD5, 1, -62760⟩, ⟨0xFBD6, 0xFBD6, 1, -62761⟩,
  ⟨0xFBD7, 0xFBD7, 1, -62736⟩, ⟨0xFBD8, 0xFBD8, 1, -62737⟩, ⟨0xFBD9, 0xFBD9, 1, -62739⟩,
  ⟨0xFBDA, 0xFBDA, 1, -62740⟩, ⟨0xFBDB, 0xFBDB, 1, -62739⟩, ⟨0xFBDC, 0xFBDC, 1, -62740⟩,
  ⟨0xFBDE, 0xFBDE, 1, -62739⟩, ⟨0xFBDF, 0xFBDF, 1, -62740⟩, ⟨0xFBE0, 0xFBE0, 1, -62747⟩,
  ⟨0xFBE1, 0xFBE1, 1, -62748⟩, ⟨0xFBE2, 0xFBE2, 1, -62745⟩, ⟨0xFBE3, 0xFBE3, 1, -62746⟩,
  ⟨0xFBE4, 0xFBE4, 1, -62740⟩, ⟨0xFBE5, 0xFBE5, 1, -62741⟩, ⟨0xFBE6, 0xFBE6, 1, -62742⟩,
  ⟨0xFBE7, 0xFBE7, 1, -62743⟩, ⟨0xFBE8, 0xFBE8, 1, -62879⟩, ⟨0xFBE9, 0xFBE9, 1, -62880⟩,
  ⟨0xFBFC, 0xFBFC, 1, -62768⟩, ⟨0xFBFD, 0xFBFD, 1, -62769⟩, ⟨0xFBFE, 0xFBFE, 1, -62770⟩,
  ⟨0xFBFF, 0xFBFF, 1, -62771⟩, ⟨0xFE10, 0xFE10, 1, -64996⟩, ⟨0xFE11, 0xFE11, 1, -52752⟩,
  ⟨0xFE13, 0xFE14, 1, -64985⟩, ⟨0xFE15, 0xFE15, 1, -65012⟩, ⟨0xFE16, 0xFE16, 1, -64983⟩,
  ⟨0xFE17, 0xFE18, 1, -52737⟩, ⟨0xFE31, 0xFE31, 1, -56861⟩, ⟨0xFE32, 0xFE32, 1, -56863⟩,
  ⟨0xFE33, 0xFE33, 1, -64980⟩, ⟨0xFE34, 0xFE34, 1, -64981⟩, ⟨0xFE35, 0xFE36, 1, -65037⟩,
  ⟨0xFE37, 0xFE37, 1, -64956⟩, ⟨0xFE38, 0xFE38, 1, -64955⟩, ⟨0xFE39, 0xFE3A, 1, -52773⟩,
  ⟨0xFE3B, 0xFE3C, 1, -52779⟩, ⟨0xFE3D, 0xFE3E, 1, -52787⟩, ⟨0xFE3F, 0xFE40, 1, -52791⟩,
  ⟨0xFE41, 0xFE44, 1, -52789⟩, ⟨0xFE47, 0xFE47, 1, -65004⟩, ⟨0xFE48, 0xFE48, 1, -65003⟩,
  ⟨0xFE4D, 0xFE4D, 1, -65006⟩, ⟨0xFE4E, 0xFE4E, 1, -65007⟩, ⟨0xFE4F, 0xFE4F, 1, -65008⟩,
  ⟨0xFE50, 0xFE50, 1, -65060⟩, ⟨0xFE51, 0xFE51, 1, -52816⟩, ⟨0xFE54, 0xFE54, 1, -65049⟩,
  ⟨0xFE55, 0xFE55, 1, -65051⟩, ⟨0xFE56, 0xFE56, 1, -65047⟩, ⟨0xFE57, 0xFE57, 1, -65078⟩,
  ⟨0xFE58, 0xFE58, 1, -56900⟩, ⟨0xFE59, 0xFE5A, 1, -65073⟩, ⟨0xFE5B, 0xFE5B, 1, -64992⟩,
  ⟨0xFE5C, 0xFE5C, 1, -64991⟩, ⟨0xFE5D, 0xFE5E, 1, -52809⟩, ⟨0xFE5F, 0xFE5F, 1, -65084⟩,
  ⟨0xFE60, 0xFE60, 1, -65082⟩, ⟨0xFE61, 0xFE62, 1, -65079⟩, ⟨0xFE63, 0xFE63, 1, -65078⟩,
  ⟨0xFE64, 0xFE64, 1, -65064⟩, ⟨0xFE65, 0xFE65, 1, -65063⟩, ⟨0xFE66, 0xFE66, 1, -65065⟩,
  ⟨0xFE68, 0xFE68, 1, -65036⟩, ⟨0xFE69, 0xFE6A, 1, -65093⟩, ⟨0xFE6B, 0xFE6B, 1, -65067⟩,
  ⟨0xFE80, 0xFE81, 1, -63583⟩, ⟨0xFE82, 0xFE83, 1, -63584⟩, ⟨0xFE84, 0xFE85, 1, -63585⟩,
  ⟨0xFE86, 0xFE87, 1, -63586⟩, ⟨0xFE88, 0xFE89, 1, -63587⟩, ⟨0xFE8A, 0xFE8A, 1, -63588⟩,
  ⟨0xFE8B, 0xFE8B, 1, -63589⟩, ⟨0xFE8C, 0xFE8D, 1, -63590⟩, ⟨0xFE8E, 0xFE8F, 1, -63591⟩,
  ⟨0xFE90, 0xFE90, 1, -63592⟩, ⟨0xFE91, 0xFE91, 1, -63593⟩, ⟨0xFE92, 0xFE93, 1, -63594⟩,
  ⟨0xFE94, 0xFE95, 1, -63595⟩, ⟨0xFE96, 0xFE96, 1, -63596⟩, ⟨0xFE97, 0xFE97, 1, -63597⟩,
  ⟨0xFE98, 0xFE99, 1, -63598⟩, ⟨0xFE9A, 0xFE9A, 1, -63599⟩, ⟨0xFE9B, 0xFE9B, 1, -63600⟩,
  ⟨0xFE9C, 0xFE9D, 1, -63601⟩, ⟨0xFE9E, 0xFE9E, 1, -63602⟩, ⟨0xFE9F, 0xFE9F, 1, -63603⟩,
  ⟨0xFEA0, 0xFEA1, 1, -63604⟩, ⟨0xFEA2, 0xFEA2, 1, -63605⟩, ⟨0xFEA3, 0xFEA3, 1, -63606⟩,
  ⟨0xFEA4, 0xFEA5, 1, -63607⟩, ⟨0xFEA6, 0xFEA6, 1, -63608⟩, ⟨0xFEA7, 0xFEA7, 1, -63609⟩,
  ⟨0xFEA8, 0xFEA9, 1, -63610⟩, ⟨0xFEAA, 0xFEAB, 1, -63611⟩, ⟨0xFEAC, 0xFEAD, 1, -63612⟩,
  ⟨0xFEAE, 0xFEAF, 1, -63613⟩, ⟨0xFEB0, 0xFEB1, 1, -63614⟩, ⟨0xFEB2, 0xFEB2, 1, -63615⟩,
  ⟨0xFEB3, 0xFEB3, 1, -63616⟩, ⟨0xFEB4, 0xFEB5, 1, -63617⟩, ⟨0xFEB6, 0xFEB6, 1, -63618⟩,
  ⟨0xFEB7, 0xFEB7, 1, -63619⟩, ⟨0xFEB8, 0xFEB9, 1, -63620⟩, ⟨0xFEBA, 0xFEBA, 1, -63621⟩,
  ⟨0xFEBB, 0xFEBB, 1, -63622⟩, ⟨0xFEBC, 0xFEBD, 1, -63623⟩, ⟨0xFEBE, 0xFEBE, 1, -63624⟩,
  ⟨0xFEBF, 0xFEBF, 1, -63625⟩, ⟨0xFEC0, 0xFEC1, 1, -63626⟩, ⟨0xFEC2, 0xFEC2, 1, -63627⟩,
  ⟨0xFEC3, 0xFEC3, 1, -63628⟩, ⟨0xFEC4, 0xFEC5, 1, -63629⟩, ⟨0xFEC6, 0xFEC6, 1, -63630⟩,
  ⟨0xFEC7, 0xFEC7, 1, -63631⟩, ⟨0xFEC8, 0xFEC9, 1, -63632⟩, ⟨0xFECA, 0xFECA, 1, -63633⟩,
  ⟨0xFECB, 0xFECB, 1, -63634⟩, ⟨0xFECC, 0xFECD, 1, -63635⟩, ⟨0xFECE, 0xFECE, 1, -63636⟩,
  ⟨0xFECF, 0xFECF, 1, -63637⟩, ⟨0xFED0, 0xFED0, 1, -63638⟩, ⟨0xFED1, 0xFED1, 1, -63632⟩,
  ⟨0xFED2, 0xFED2, 1, -63633⟩, ⟨0xFED3, 0xFED3, 1, -63634⟩, ⟨0xFED4, 0xFED5, 1, -63635⟩,
  ⟨0xFED6, 0xFED6, 1, -63636⟩, ⟨0xFED7, 0xFED7, 1, -63637⟩, ⟨0xFED8, 0xFED9, 1, -63638⟩,
  ⟨0xFEDA, 0xFEDA, 1, -63639⟩, ⟨0xFEDB, 0xFEDB, 1, -63640⟩, ⟨0xFEDC, 0xFEDD, 1, -63641⟩,
  ⟨0xFEDE, 0xFEDE, 1, -63642⟩, ⟨0xFEDF, 0xFEDF, 1, -63643⟩, ⟨0xFEE0, 0xFEE1, 1, -63644⟩,
  ⟨0xFEE2, 0xFEE2, 1, -63645⟩, ⟨0xFEE3, 0xFEE3, 1, -63646⟩, ⟨0xFEE4, 0xFEE5, 1, -63647⟩,
  ⟨0xFEE6, 0xFEE6, 1, -63648⟩, ⟨0xFEE7, 0xFEE7, 1, -63649⟩, ⟨0xFEE8, 0xFEE9, 1, -63650⟩,
  ⟨0xFEEA, 0xFEEA, 1, -63651⟩, ⟨0xFEEB, 0xFEEB, 1, -63652⟩, ⟨0xFEEC, 0xFEED, 1, -63653⟩,
  ⟨0xFEEE, 0xFEEF, 1, -63654⟩, ⟨0xFEF0, 0xFEF1, 1, -63655⟩, ⟨0xFEF2, 0xFEF2, 1, -63656⟩,
  ⟨0xFEF3, 0xFEF3, 1, -63657⟩, ⟨0xFEF4, 0xFEF4, 1, -63658⟩, ⟨0xFF01, 0xFF20, 1, -65248⟩,
  ⟨0xFF21, 0xFF3A, 1, -65216⟩, ⟨0xFF3B, 0xFF5E, 1, -65248⟩, ⟨0xFF5F, 0xFF60, 1, -54746⟩,
  ⟨0xFF61, 0xFF61, 1, -65331⟩, ⟨0xFF62, 0xFF63, 1, -53078⟩, ⟨0xFF64, 0xFF64, 1, -53091⟩,
  ⟨0xFF65, 0xFF65, 1, -52842⟩, ⟨0xFF66, 0xFF66, 1, -52852⟩, ⟨0xFF67, 0xFF67, 1, -52934⟩,
  ⟨0xFF68, 0xFF68, 1, -52933⟩, ⟨0xFF69, 0xFF69, 1, -52932⟩, ⟨0xFF6A, 0xFF6A, 1, -52931⟩,
  ⟨0xFF6B, 0xFF6B, 1, -52930⟩, ⟨0xFF6C, 0xFF6C, 1, -52873⟩, ⟨0xFF6D, 0xFF6D, 1, -52872⟩,
  ⟨0xFF6E, 0xFF6E, 1, -52871⟩, ⟨0xFF6F, 0xFF6F, 1, -52908⟩, ⟨0xFF70, 0xFF70, 1, -52852⟩,
  ⟨0xFF71, 0xFF71, 1, -52943⟩, ⟨0xFF72, 0xFF72, 1, -52942⟩, ⟨0xFF73, 0xFF73, 1, -52941⟩,
  ⟨0xFF74, 0xFF74, 1, -52940⟩, ⟨0xFF75, 0xFF76, 1, -52939⟩, ⟨0xFF77, 0xFF77, 1, -52938⟩,
  ⟨0xFF78, 0xFF78, 1, -52937⟩, ⟨0xFF79, 0xFF79, 1, -52936⟩, ⟨0xFF7A, 0xFF7A, 1, -52935⟩,
  ⟨0xFF7B, 0xFF7B, 1, -52934⟩, ⟨0xFF7C, 0xFF7C, 1, -52933⟩, ⟨0xFF7D, 0xFF7D, 1, -52932⟩,
  ⟨0xFF7E, 0xFF7E, 1, -52931⟩, ⟨0xFF7F, 0xFF7F, 1, -52930⟩, ⟨0xFF80, 0xFF80, 1, -52929⟩,
  ⟨0xFF81, 0xFF81, 1, -52928⟩, ⟨0xFF82, 0xFF82, 1, -52926⟩, ⟨0xFF83, 0xFF83, 1, -52925⟩,
  ⟨0xFF84, 0xFF84, 1, -52924⟩, ⟨0xFF85, 0xFF8A, 1, -52923⟩, ⟨0xFF8B, 0xFF8B, 1, -52921⟩,
  ⟨0xFF8C, 0xFF8C, 1, -52919⟩, ⟨0xFF8D, 0xFF8D, 1, -52917⟩, ⟨0xFF8E, 0xFF8E, 1, -52915⟩,
  ⟨0xFF8F, 0xFF93, 1, -52913⟩, ⟨0xFF94, 0xFF94, 1, -52912⟩, ⟨0xFF95, 0xFF95, 1, -52911⟩,
  ⟨0xFF96, 0xFF9B, 1, -52910⟩, ⟨0xFF9C, 0xFF9C, 1, -52909⟩, ⟨0xFF9D, 0xFF9D, 1, -52906⟩,
  ⟨0xFF9E, 0xFF9F, 1, -52997⟩, ⟨0xFFA1, 0xFFA2, 1, -61089⟩, ⟨0xFFA3, 0xFFA3, 1, -60921⟩,
  ⟨0xFFA4, 0xFFA4, 1, -61090⟩, ⟨0xFFA5, 0xFFA6, 1, -60921⟩, ⟨0xFFA7, 0xFFA9, 1, -61092⟩,
  ⟨0xFFAA, 0xFFAF, 1, -60922⟩, ⟨0xFFB0, 0xFFB0, 1, -61078⟩, ⟨0xFFB1, 0xFFB3, 1, -61099⟩,
  ⟨0xFFB4, 0xFFB4, 1, -61075⟩, ⟨0xFFB5, 0xFFBE, 1, -61100⟩, ⟨0xFFC2, 0xFFC7, 1, -61025⟩,
  ⟨0xFFCA, 0xFFCF, 1, -61027⟩, ⟨0xFFD2, 0xFFD7, 1, -61029⟩, ⟨0xFFDA, 0xFFDC, 1, -61031⟩,
  ⟨0xFFE0, 0xFFE1, 1, -65342⟩, ⟨0xFFE2, 0xFFE2, 1, -65334⟩, ⟨0xFFE4, 0xFFE4, 1, -65342⟩,
  ⟨0xFFE5, 0xFFE5, 1, -65344⟩, ⟨0xFFE6, 0xFFE6, 1, -57149⟩, ⟨0xFFE8, 0xFFE8, 1, -56038⟩,
  ⟨0xFFE9, 0xFFEC, 1, -56921⟩, ⟨0xFFED, 0xFFED, 1, -55885⟩, ⟨0xFFEE, 0xFFEE, 1, -55843⟩,
  ⟨0x10400, 0x10427, 1, 40⟩, ⟨0x104B0, 0x104D3, 1, 40⟩, ⟨0x10570, 0x1057A, 1, 39⟩,
  ⟨0x1057C, 0x1058A, 1, 39⟩, ⟨0x1058C, 0x10592, 1, 39⟩, ⟨0x10594, 0x10595, 1, 39⟩,
  ⟨0x10781, 0x10782, 1, -66737⟩, ⟨0x10783, 0x10783, 1, -67229⟩, ⟨0x10784, 0x10784, 1, -66795⟩,
  ⟨0x10785, 0x10785, 1, -66866⟩, ⟨0x10787, 0x10787, 1, -66788⟩, ⟨0x10788, 0x10788, 1, -23586⟩,
  ⟨0x10789, 0x10789, 1, -66788⟩, ⟨0x1078A, 0x1078A, 1, -66790⟩, ⟨0x1078B, 0x1078C, 1, -66869⟩,
  ⟨0x1078D, 0x1078D, 1, -59900⟩, ⟨0x1078E, 0x1078E, 1, -66870⟩, ⟨0x1078F, 0x1078F, 1, -66865⟩,
  ⟨0x10790, 0x10790, 1, -66791⟩, ⟨0x10791, 0x10791, 1, -66861⟩, ⟨0x10792, 0x10792, 1, -66864⟩,
  ⟨0x10793, 0x10793, 1, -66867⟩, ⟨0x10794, 0x10794, 1, -66809⟩, ⟨0x10795, 0x10795, 1, -67182⟩,
  ⟨0x10796, 0x10796, 1, -66810⟩, ⟨0x10797, 0x10797, 1, -66864⟩, ⟨0x10798, 0x10798, 1, -66836⟩,
  ⟨0x10799, 0x1079A, 1, -66799⟩, ⟨0x1079B, 0x1079B, 1, -66863⟩, ⟨0x1079C, 0x1079C, 1, 55144⟩,
  ⟨0x1079D, 0x1079D, 1, -24591⟩, ⟨0x1079E, 0x1079E, 1, -66864⟩, ⟨0x1079F, 0x1079F, 1, 55142⟩,
  ⟨0x107A0, 0x107A0, 1, -66834⟩, ⟨0x107A1, 0x107A1, 1, 55141⟩, ⟨0x107A2, 0x107A2, 1, -67242⟩,
  ⟨0x107A3, 0x107A4, 1, -66861⟩, ⟨0x107A5, 0x107A5, 1, -67380⟩, ⟨0x107A6, 0x107A6, 1, -66860⟩,
  ⟨0x107A7, 0x107A7, 1, 55137⟩, ⟨0x107A8, 0x107A9, 1, -66859⟩, ⟨0x107AA, 0x107AA, 1, -66858⟩,
  ⟨0x107AB, 0x107AB, 1, -66819⟩, ⟨0x107AC, 0x107AC, 1, -66822⟩, ⟨0x107AD, 0x107AD, 1, -23622⟩,
  ⟨0x107AE, 0x107AE, 1, -66823⟩, ⟨0x107AF, 0x107AF, 1, -66855⟩, ⟨0x107B0, 0x107B0, 1, -56127⟩,
  ⟨0x107B2, 0x107B2, 1, -66851⟩, ⟨0x107B3, 0x107B4, 1, -66834⟩, ⟨0x107B5, 0x107B5, 1, -66845⟩,
  ⟨0x107B6, 0x107B8, 1, -67062⟩, ⟨0x107B9, 0x107B9, 1, 55121⟩, ⟨0x107BA, 0x107BA, 1, 55140⟩,
  ⟨0x10C80, 0x10CB2, 1, 64⟩, ⟨0x10D50, 0x10D65, 1, 32⟩, ⟨0x118A0, 0x118BF, 1, 32⟩,
  ⟨0x16E40, 0x16E5F, 1, 32⟩, ⟨0x16EA0, 0x16EB8, 1, 27⟩, ⟨0x1CCD6, 0x1CCEF, 1, -117877⟩,
  ⟨0x1CCF0, 0x1CCF9, 1, -117952⟩, ⟨0x1D400, 0x1D419, 1, -119711⟩, ⟨0x1D41A, 0x1D433, 1, -119737⟩,
  ⟨0x1D434, 0x1D44D, 1, -119763⟩, ⟨0x1D44E, 0x1D454, 1, -119789⟩, ⟨0x1D456, 0x1D467, 1, -119789⟩,
  ⟨0x1D468, 0x1D481, 1, -119815⟩, ⟨0x1D482, 0x1D49B, 1, -119841⟩, ⟨0x1D49C, 0x1D49E, 2, -119867⟩,
  ⟨0x1D49F, 0x1D4A5, 3, -119867⟩, ⟨0x1D4A6, 0x1D4A9, 3, -119867⟩, ⟨0x1D4AA, 0x1D4AC, 1, -119867⟩,
  ⟨0x1D4AE, 0x1D4B5, 1, -119867⟩, ⟨0x1D4B6, 0x1D4B9, 1, -119893⟩, ⟨0x1D4BB, 0x1D4BD, 2, -119893⟩,
  ⟨0x1D4BE, 0x1D4C3, 1, -119893⟩, ⟨0x1D4C5, 0x1D4CF, 1, -119893⟩, ⟨0x1D4D0, 0x1D4E9, 1, -119919⟩,
  ⟨0x1D4EA, 0x1D503, 1, -119945⟩]

def runsAbove : List CaseRun := [
  ⟨0x1D504, 0x1D505, 1, -119971⟩, ⟨0x1D507, 0x1D50A, 1, -119971⟩, ⟨0x1D50D, 0x1D514, 1, -119971⟩,
  ⟨0x1D516, 0x1D51C, 1, -119971⟩, ⟨0x1D51E, 0x1D537, 1, -119997⟩, ⟨0x1D538, 0x1D539, 1, -120023⟩,
  ⟨0x1D53B, 0x1D53E, 1, -120023⟩, ⟨0x1D540, 0x1D544, 1, -120023⟩, ⟨0x1D546, 0x1D54A, 4, -120023⟩,
  ⟨0x1D54B, 0x1D550, 1, -120023⟩, ⟨0x1D552, 0x1D56B, 1, -120049⟩, ⟨0x1D56C, 0x1D585, 1, -120075⟩,
  ⟨0x1D586, 0x1D59F, 1, -120101⟩, ⟨0x1D5A0, 0x1D5B9, 1, -120127⟩, ⟨0x1D5BA, 0x1D5D3, 1, -120153⟩,
  ⟨0x1D5D4, 0x1D5ED, 1, -120179⟩, ⟨0x1D5EE, 0x1D607, 1, -120205⟩, ⟨0x1D608, 0x1D621, 1, -120231⟩,
  ⟨0x1D622, 0x1D63B, 1, -120257⟩, ⟨0x1D63C, 0x1D655, 1, -120283⟩, ⟨0x1D656, 0x1D66F, 1, -120309⟩,
  ⟨0x1D670, 0x1D689, 1, -120335⟩, ⟨0x1D68A, 0x1D6A3, 1, -120361⟩, ⟨0x1D6A4, 0x1D6A4, 1, -120179⟩,
  ⟨0x1D6A5, 0x1D6A5, 1, -119918⟩, ⟨0x1D6A8, 0x1D6B8, 1, -119543⟩, ⟨0x1D6B9, 0x1D6B9, 1, -119553⟩,
  ⟨0x1D6BA, 0x1D6C0, 1, -119543⟩, ⟨0x1D6C1, 0x1D6C1, 1, -111802⟩, ⟨0x1D6C2, 0x1D6D2, 1, -119569⟩,
  ⟨0x1D6D3, 0x1D6D3, 1, -119568⟩, ⟨0x1D6D4, 0x1D6DA, 1, -119569⟩, ⟨0x1D6DB, 0x1D6DB, 1, -111833⟩,
  ⟨0x1D6DC, 0x1D6DC, 1, -119591⟩, ⟨0x1D6DD, 0x1D6DD, 1, -119589⟩, ⟨0x1D6DE, 0x1D6DE, 1, -119588⟩,
  ⟨0x1D6DF, 0x1D6DF, 1, -119577⟩, ⟨0x1D6E0, 0x1D6E0, 1, -119583⟩, ⟨0x1D6E1, 0x1D6E1, 1, -119585⟩,
  ⟨0x1D6E2, 0x1D6F2, 1, -119601⟩, ⟨0x1D6F3, 0x1D6F3, 1, -119611⟩, ⟨0x1D6F4, 0x1D6FA, 1, -119601⟩,
  ⟨0x1D6FB, 0x1D6FB, 1, -111860⟩, ⟨0x1D6FC, 0x1D70C, 1, -119627⟩, ⟨0x1D70D, 0x1D70D, 1, -119626⟩,
  ⟨0x1D70E, 0x1D714, 1, -119627⟩, ⟨0x1D715, 0x1D715, 1, -111891⟩, ⟨0x1D716, 0x1D716, 1, -119649⟩,
  ⟨0x1D717, 0x1D717, 1, -119647⟩, ⟨0x1D718, 0x1D718, 1, -119646⟩, ⟨0x1D719, 0x1D719, 1, -119635⟩,
  ⟨0x1D71A, 0x1D71A, 1, -119641⟩, ⟨0x1D71B, 0x1D71B, 1, -119643⟩, ⟨0x1D71C, 0x1D72C, 1, -119659⟩,
  ⟨0x1D72D, 0x1D72D, 1, -119669⟩, ⟨0x1D72E, 0x1D734, 1, -119659⟩, ⟨0x1D735, 0x1D735, 1, -111918⟩,
  ⟨0x1D736, 0x1D746, 1, -119685⟩, ⟨0x1D747, 0x1D747, 1, -119684⟩, ⟨0x1D748, 0x1D74E, 1, -119685⟩,
  ⟨0x1D74F, 0x1D74F, 1, -111949⟩, ⟨0x1D750, 0x1D750, 1, -119707⟩, ⟨0x1D751, 0x1D751, 1, -119705⟩,
  ⟨0x1D752, 0x1D752, 1, -119704⟩, ⟨0x1D753, 0x1D753, 1, -119693⟩, ⟨0x1D754, 0x1D754, 1, -119699⟩,
  ⟨0x1D755, 0x1D755, 1, -119701⟩, ⟨0x1D756, 0x1D766, 1, -119717⟩, ⟨0x1D767, 0x1D767, 1, -119727⟩,
  ⟨0x1D768, 0x1D76E, 1, -119717⟩, ⟨0x1D76F, 0x1D76F, 1, -111976⟩, ⟨0x1D770, 0x1D780, 1, -119743⟩,
  ⟨0x1D781, 0x1D781, 1, -119742⟩, ⟨0x1D782, 0x1D788, 1, -119743⟩, ⟨0x1D789, 0x1D789, 1, -112007⟩,
  ⟨0x1D78A, 0x1D78A, 1, -119765⟩, ⟨0x1D78B, 0x1D78B, 1, -119763⟩, ⟨0x1D78C, 0x1D78C, 1, -119762⟩,
  ⟨0x1D78D, 0x1D78D, 1, -119751⟩, ⟨0x1D78E, 0x1D78E, 1, -119757⟩, ⟨0x1D78F, 0x1D78F, 1, -119759⟩,
  ⟨0x1D790, 0x1D7A0, 1, -119775⟩, ⟨0x1D7A1, 0x1D7A1, 1, -119785⟩, ⟨0x1D7A2, 0x1D7A8, 1, -119775⟩,
  ⟨0x1D7A9, 0x1D7A9, 1, -112034⟩, ⟨0x1D7AA, 0x1D7BA, 1, -119801⟩, ⟨0x1D7BB, 0x1D7BB, 1, -119800⟩,
  ⟨0x1D7BC, 0x1D7C2, 1, -119801⟩, ⟨0x1D7C3, 0x1D7C3, 1, -112065⟩, ⟨0x1D7C4, 0x1D7C4, 1, -119823⟩,
  ⟨0x1D7C5, 0x1D7C5, 1, -119821⟩, ⟨0x1D7C6, 0x1D7C6, 1, -119820⟩, ⟨0x1D7C7, 0x1D7C7, 1, -119809⟩,
  ⟨0x1D7C8, 0x1D7C8, 1, -119815⟩, ⟨0x1D7C9, 0x1D7C9, 1, -119817⟩, ⟨0x1D7CA, 0x1D7CA, 1, -119789⟩,
  ⟨0x1D7CB, 0x1D7CB, 1, -119790⟩, ⟨0x1D7CE, 0x1D7D7, 1, -120734⟩, ⟨0x1D7D8, 0x1D7E1, 1, -120744⟩,
  ⟨0x1D7E2, 0x1D7EB, 1, -120754⟩, ⟨0x1D7EC, 0x1D7F5, 1, -120764⟩, ⟨0x1D7F6, 0x1D7FF, 1, -120774⟩,
  ⟨0x1E030, 0x1E038, 1, -121856⟩, ⟨0x1E039, 0x1E03B, 1, -121855⟩, ⟨0x1E03C, 0x1E046, 1, -121854⟩,
  ⟨0x1E047, 0x1E047, 1, -121852⟩, ⟨0x1E048, 0x1E049, 1, -121851⟩, ⟨0x1E04A, 0x1E04A, 1, -80321⟩,
  ⟨0x1E04B, 0x1E04B, 1, -121714⟩, ⟨0x1E04C, 0x1E04C, 1, -121846⟩, ⟨0x1E04D, 0x1E04D, 1, -121845⟩,
  ⟨0x1E04E, 0x1E04E, 1, -121701⟩, ⟨0x1E04F, 0x1E04F, 1, -121760⟩, ⟨0x1E050, 0x1E050, 1, -121729⟩,
  ⟨0x1E051, 0x1E059, 1, -121889⟩, ⟨0x1E05A, 0x1E05B, 1, -121888⟩, ⟨0x1E05C, 0x1E05D, 1, -121886⟩,
  ⟨0x1E05E, 0x1E05E, 1, -121885⟩, ⟨0x1E05F, 0x1E064, 1, -121884⟩, ⟨0x1E065, 0x1E066, 1, -121883⟩,
  ⟨0x1E067, 0x1E067, 1, -121814⟩, ⟨0x1E068, 0x1E068, 1, -121874⟩, ⟨0x1E069, 0x1E069, 1, -121876⟩,
  ⟨0x1E06A, 0x1E06A, 1, -121867⟩, ⟨0x1E06B, 0x1E06B, 1, -121792⟩, ⟨0x1E06C, 0x1E06C, 1, -80411⟩,
  ⟨0x1E06D, 0x1E06D, 1, -121788⟩, ⟨0x1E900, 0x1E921, 1, 34⟩, ⟨0x1EE00, 0x1EE01, 1, -124889⟩,
  ⟨0x1EE02, 0x1EE02, 1, -124886⟩, ⟨0x1EE03, 0x1EE03, 1, -124884⟩, ⟨0x1EE05, 0x1EE05, 1, -124861⟩,
  ⟨0x1EE06, 0x1EE06, 1, -124884⟩, ⟨0x1EE07, 0x1EE07, 1, -124890⟩, ⟨0x1EE08, 0x1EE08, 1, -124881⟩,
  ⟨0x1EE09, 0x1EE09, 1, -124863⟩, ⟨0x1EE0A, 0x1EE0D, 1, -124871⟩, ⟨0x1EE0E, 0x1EE0E, 1, -124891⟩,
  ⟨0x1EE0F, 0x1EE0F, 1, -124886⟩, ⟨0x1EE10, 0x1EE10, 1, -124879⟩, ⟨0x1EE11, 0x1EE11, 1, -124892⟩,
  ⟨0x1EE12, 0x1EE12, 1, -124880⟩, ⟨0x1EE13, 0x1EE13, 1, -124898⟩, ⟨0x1EE14, 0x1EE14, 1, -124896⟩,
  ⟨0x1EE15, 0x1EE16, 1, -124907⟩, ⟨0x1EE17, 0x1EE17, 1, -124905⟩, ⟨0x1EE18, 0x1EE18, 1, -124904⟩,
  ⟨0x1EE19, 0x1EE19, 1, -124899⟩, ⟨0x1EE1A, 0x1EE1A, 1, -124898⟩, ⟨0x1EE1B, 0x1EE1B, 1, -124897⟩,
  ⟨0x1EE1C, 0x1EE1C, 1, -124846⟩, ⟨0x1EE1D, 0x1EE1D, 1, -124771⟩, ⟨0x1EE1E, 0x1EE1E, 1, -124797⟩,
  ⟨0x1EE1F, 0x1EE1F, 1, -124848⟩, ⟨0x1EE21, 0x1EE21, 1, -124921⟩, ⟨0x1EE22, 0x1EE22, 1, -124918⟩,
  ⟨0x1EE24, 0x1EE24, 1, -124893⟩, ⟨0x1EE27, 0x1EE27, 1, -124922⟩, ⟨0x1EE29, 0x1EE29, 1, -124895⟩,
  ⟨0x1EE2A, 0x1EE2D, 1, -124903⟩, ⟨0x1EE2E, 0x1EE2E, 1, -124923⟩, ⟨0x1EE2F, 0x1EE2F, 1, -124918⟩,
  ⟨0x1EE30, 0x1EE30, 1, -124911⟩, ⟨0x1EE31, 0x1EE31, 1, -124924⟩, ⟨0x1EE32, 0x1EE32, 1, -124912⟩,
  ⟨0x1EE34, 0x1EE34, 1, -124928⟩, ⟨0x1EE35, 0x1EE36, 1, -124939⟩, ⟨0x1EE37, 0x1EE37, 1, -124937⟩,
  ⟨0x1EE39, 0x1EE39, 1, -124931⟩, ⟨0x1EE3B, 0x1EE3B, 1, -124929⟩, ⟨0x1EE42, 0x1EE42, 1, -124950⟩,
  ⟨0x1EE47, 0x1EE47, 1, -124954⟩, ⟨0x1EE49, 0x1EE49, 1, -124927⟩, ⟨0x1EE4B, 0x1EE4D, 2, -124935⟩,
  ⟨0x1EE4E, 0x1EE4E, 1, -124955⟩, ⟨0x1EE4F, 0x1EE4F, 1, -124950⟩, ⟨0x1EE51, 0x1EE51, 1, -124956⟩,
  ⟨0x1EE52, 0x1EE52, 1, -124944⟩, ⟨0x1EE54, 0x1EE54, 1, -124960⟩, ⟨0x1EE57, 0x1EE57, 1, -124969⟩,
  ⟨0x1EE59, 0x1EE59, 1, -124963⟩, ⟨0x1EE5B, 0x1EE5B, 1, -124961⟩, ⟨0x1EE5D, 0x1EE5D, 1, -124835⟩,
  ⟨0x1EE5F, 0x1EE5F, 1, -124912⟩, ⟨0x1EE61, 0x1EE61, 1, -124985⟩, ⟨0x1EE62, 0x1EE62, 1, -124982⟩,
  ⟨0x1EE64, 0x1EE64, 1, -124957⟩, ⟨0x1EE67, 0x1EE67, 1, -124986⟩, ⟨0x1EE68, 0x1EE68, 1, -124977⟩,
  ⟨0x1EE69, 0x1EE69, 1, -124959⟩, ⟨0x1EE6A, 0x1EE6C, 2, -124967⟩, ⟨0x1EE6D, 0x1EE6D, 1, -124967⟩,
  ⟨0x1EE6E, 0x1EE6E, 1, -124987⟩, ⟨0x1EE6F, 0x1EE6F, 1, -124982⟩, ⟨0x1EE70, 0x1EE70, 1, -124975⟩,
  ⟨0x1EE71, 0x1EE71, 1, -124988⟩, ⟨0x1EE72, 0x1EE72, 1, -124976⟩, ⟨0x1EE74, 0x1EE74, 1, -124992⟩,
  ⟨0x1EE75, 0x1EE76, 1, -125003⟩, ⟨0x1EE77, 0x1EE77, 1, -125001⟩, ⟨0x1EE79, 0x1EE79, 1, -124995⟩,
  ⟨0x1EE7A, 0x1EE7A, 1, -124994⟩, ⟨0x1EE7B, 0x1EE7B, 1, -124993⟩, ⟨0x1EE7C, 0x1EE7C, 1, -124942⟩,
  ⟨0x1EE7E, 0x1EE7E, 1, -124893⟩, ⟨0x1EE80, 0x1EE81, 1, -125017⟩, ⟨0x1EE82, 0x1EE82, 1, -125014⟩,
  ⟨0x1EE83, 0x1EE83, 1, -125012⟩, ⟨0x1EE84, 0x1EE85, 1, -124989⟩, ⟨0x1EE86, 0x1EE86, 1, -125012⟩,
  ⟨0x1EE87, 0x1EE87, 1, -125018⟩, ⟨0x1EE88, 0x1EE88, 1, -125009⟩, ⟨0x1EE89, 0x1EE89, 1, -124991⟩,
  ⟨0x1EE8B, 0x1EE8D, 1, -124999⟩, ⟨0x1EE8E, 0x1EE8E, 1, -125019⟩, ⟨0x1EE8F, 0x1EE8F, 1, -125014⟩,
  ⟨0x1EE90, 0x1EE90, 1, -125007⟩, ⟨0x1EE91, 0x1EE91, 1, -125020⟩, ⟨0x1EE92, 0x1EE92, 1, -125008⟩,
  ⟨0x1EE93, 0x1EE93, 1, -125026⟩, ⟨0x1EE94, 0x1EE94, 1, -125024⟩, ⟨0x1EE95, 0x1EE96, 1, -125035⟩,
  ⟨0x1EE97, 0x1EE97, 1, -125033⟩, ⟨0x1EE98, 0x1EE98, 1, -125032⟩, ⟨0x1EE99, 0x1EE99, 1, -125027⟩,
  ⟨0x1EE9A, 0x1EE9A, 1, -125026⟩, ⟨0x1EE9B, 0x1EE9B, 1, -125025⟩, ⟨0x1EEA1, 0x1EEA1, 1, -125049⟩,
  ⟨0x1EEA2, 0x1EEA2, 1, -125046⟩, ⟨0x1EEA3, 0x1EEA3, 1, -125044⟩, ⟨0x1EEA5, 0x1EEA5, 1, -125021⟩,
  ⟨0x1EEA6, 0x1EEA6, 1, -125044⟩, ⟨0x1EEA7, 0x1EEA7, 1, -125050⟩, ⟨0x1EEA8, 0x1EEA8, 1, -125041⟩,
  ⟨0x1EEA9, 0x1EEA9, 1, -125023⟩, ⟨0x1EEAB, 0x1EEAD, 1, -125031⟩, ⟨0x1EEAE, 0x1EEAE, 1, -125051⟩,
  ⟨0x1EEAF, 0x1EEAF, 1, -125046⟩, ⟨0x1EEB0, 0x1EEB0, 1, -125039⟩, ⟨0x1EEB1, 0x1EEB1, 1, -125052⟩,
  ⟨0x1EEB2, 0x1EEB2, 1, -125040⟩, ⟨0x1EEB3, 0x1EEB3, 1, -125058⟩, ⟨0x1EEB4, 0x1EEB4, 1, -125056⟩,
  ⟨0x1EEB5, 0x1EEB6, 1, -125067⟩, ⟨0x1EEB7, 0x1EEB7, 1, -125065⟩, ⟨0x1EEB8, 0x1EEB8, 1, -125064⟩,
  ⟨0x1EEB9, 0x1EEB9, 1, -125059⟩, ⟨0x1EEBA, 0x1EEBA, 1, -125058⟩, ⟨0x1EEBB, 0x1EEBB, 1, -125057⟩,
  ⟨0x1F12B, 0x1F12B, 1, -127176⟩, ⟨0x1F12C, 0x1F12C, 1, -127162⟩, ⟨0x1F130, 0x1F149, 1, -127183⟩,
  ⟨0x1F202, 0x1F202, 1, -115021⟩, ⟨0x1F213, 0x1F213, 1, -115020⟩, ⟨0x1FBF0, 0x1FBF9, 1, -129984⟩]

def replacedRuns : List CaseRun :=
  runsBelow2000 ++ runsBelowB000 ++ runsBelow1D500 ++ runsAbove

/-- Ideographs from a first one on, each with the unified ideograph of the same place in the text. -/
def unifiedRuns : List (Nat × String) := [
  (0x2E9F, "母"), (0x2EF3, "龟"), (0x2F00, "一丨丶丿乙亅二亠人儿入八冂冖冫几凵刀力勹匕匚匸十卜卩厂厶又口囗土士夂夊夕大女子宀"),
  (0x2F28, "寸小尢尸屮山巛工己巾干幺广廴廾弋弓彐彡彳心戈戶手支攴文斗斤方无日曰月木欠止歹殳毋"),
  (0x2F50, "比毛氏气水火爪父爻爿片牙牛犬玄玉瓜瓦甘生用田疋疒癶白皮皿目矛矢石示禸禾穴立竹米糸"),
  (0x2F78, "缶网羊羽老而耒耳聿肉臣自至臼舌舛舟艮色艸虍虫血行衣襾見角言谷豆豕豸貝赤走足身車辛"),
  (0x2FA0, "辰辵邑酉釆里金長門阜隶隹雨靑非面革韋韭音頁風飛食首香馬骨高髟鬥鬯鬲鬼魚鳥鹵鹿麥麻"), (0x2FC8, "黃黍黑黹黽鼎鼓鼠鼻齊齒龍龜龠"), (0x3038, "十卄卅"),
  (0x3192, "一二三四上中下甲乙丙丁天地人"), (0x3244, "問幼文箏"),
  (0x3280, "一二三四五六七八九十月火水木金土日株有社名特財祝労秘男女適優印注項休写正上中下左"), (0x32A8, "右医宗学監企資協夜"),
  (0xF900, "豈更車賈滑串句龜龜契金喇奈懶癩羅蘿螺裸邏樂洛烙珞落酪駱亂卵欄爛蘭鸞嵐濫藍襤拉臘蠟"),
  (0xF928, "廊朗浪狼郎來冷勞擄櫓爐盧老蘆虜路露魯鷺碌祿綠菉錄鹿論壟弄籠聾牢磊賂雷壘屢樓淚漏累"),
  (0xF950, "縷陋勒肋凜凌稜綾菱陵讀拏樂諾丹寧怒率異北磻便復不泌數索參塞省葉說殺辰沈拾若掠略亮"),
  (0xF978, "兩凉梁糧良諒量勵呂女廬旅濾礪閭驪麗黎力曆歷轢年憐戀撚漣煉璉秊練聯輦蓮連鍊列劣咽烈"),
  (0xF9A0, "裂說廉念捻殮簾獵令囹寧嶺怜玲瑩羚聆鈴零靈領例禮醴隸惡了僚寮尿料樂燎療蓼遼龍暈阮劉"),
  (0xF9C8, "杻柳流溜琉留硫紐類六戮陸倫崙淪輪律慄栗率隆利吏履易李梨泥理痢罹裏裡里離匿溺吝燐璘"), (0xF9F0, "藺隣鱗麟林淋臨立笠粒狀炙識什茶刺切度拓糖宅洞暴輻行降見廓兀嗀"),
  (0xFA10, "塚"), (0xFA12, "晴"), (0xFA15, "凞猪益礼神祥福靖精羽"), (0xFA20, "蘒"), (0xFA22, "諸"),
  (0xFA25, "逸都"), (0xFA2A, "飯飼館鶴郞隷侮僧免勉勤卑喝嘆器塀墨層屮悔慨憎懲敏既暑梅海渚漢煮爫琢碑社祉祈祐祖祝"),
  (0xFA52, "禍禎穀突節練縉繁署者臭艹艹著褐視謁謹賓贈辶逸難響頻恵𤋮舘"), (0xFA70, "並况全侀充冀勇勺喝啕喙嗢塚墳奄奔婢嬨廒廙彩徭惘慎愈憎慠懲戴揄搜摒敖晴朗望杖歹殺流"),
  (0xFA98, "滛滋漢瀞煮瞧爵犯猪瑱甆画瘝瘟益盛直睊着磌窱節类絛練缾者荒華蝹襁覆視調諸請謁諾諭謹"), (0xFAC0, "變贈輸遲醙鉶陼難靖韛響頋頻鬒龜𢡊𢡄𣏕㮝䀘䀹𥉉𥳐𧻓齃龎"),
  (0x1F210, "手字双"), (0x1F214, "二多解天交映無料前後再新初終生販声吹演投捕一三遊左中右指走打禁空合満有月申割営配"), (0x1F250, "得可"),
  (0x2F800, "丽丸乁𠄢你侮侻倂偺備僧像㒞𠘺免兔兤具𠔜㒹內再𠕋冗冤仌冬况𩇟凵刃㓟刻剆割剷㔕勇勉勤"),
  (0x2F828, "勺包匆北卉卑博即卽卿卿卿𠨬灰及叟𠭣叫叱吆咞吸呈周咢哶唐啓啣善善喙喫喳嗂圖嘆圗噑噴"),
  (0x2F850, "切壮城埴堍型堲報墬𡓤売壷夆多夢奢𡚨𡛪姬娛娧姘婦㛮㛼嬈嬾嬾𡧈寃寘寧寳𡬘寿将当尢㞁屠"),
  (0x2F878, "屮峀岍𡷤嵃𡷦嵮嵫嵼巡巢㠯巽帨帽幩㡢𢆃㡼庰庳庶廊𪎒廾𢌱𢌱舁弢弢㣇𣊸𦇚形彫㣣徚忍志忹"),
  (0x2F8A0, "悁㤺㤜悔𢛔惇慈慌慎慌慺憎憲憤憯懞懲懶成戛扝抱拔捐𢬌挽拼捨掃揤𢯱搢揅掩㨮摩摾撝摷㩬"),
  (0x2F8C8, "敏敬𣀊旣書晉㬙暑㬈㫤冒冕最暜肭䏙朗望朡杞杓𣏃㭉柺枅桒梅𣑭梎栟椔㮝楂榣槪檨𣚣櫛㰘次"),
  (0x2F8F0, "𣢧歔㱎歲殟殺殻𣪍𡴋𣫺汎𣲼沿泍汧洖派海流浩浸涅𣴞洴港湮㴳滋滇𣻑淹潮𣽞𣾎濆瀹瀞瀛㶖灊"),
  (0x2F918, "災灷炭𠔥煅𤉣熜𤎫爨爵牐𤘈犀犕𤜵𤠔獺王㺬玥㺸㺸瑇瑜瑱璅瓊㼛甤𤰶甾𤲒異𢆟瘐𤾡𤾸𥁄㿼䀈"),
  (0x2F940, "直𥃳𥃲𥄙𥄳眞真真睊䀹瞋䁆䂖𥐝硎碌磌䃣𥘦祖𥚚𥛅福秫䄯穀穊穏𥥼𥪧𥪧竮䈂𥮫篆築䈧𥲀糒䊠"),
  (0x2F968, "糨糣紀𥾆絣䌁緇縂繅䌴𦈨𦉇䍙𦋙罺𦌾羕翺者𦓚𦔣聠𦖨聰𣍟䏕育脃䐋脾媵𦞧𦞵𣎓𣎜舁舄辞䑫芑"),
  (0x2F990, "芋芝劳花芳芽苦𦬼若茝荣莭茣莽菧著荓菊菌菜𦰶𦵫𦳕䔫蓱蓳蔖𧏊蕤𦼬䕝䕡𦾱𧃒䕫虐虜虧虩蚩"),
  (0x2F9B8, "蚈蜎蛢蝹蜨蝫螆䗗蟡蠁䗹衠衣𧙧裗裞䘵裺㒻𧢮𧥦䚾䛇誠諭變豕𧲨貫賁贛起𧼯𠠄跋趼跰𠣞軔輸"),
  (0x2F9E0, "𨗒𨗭邔郱鄑𨜮鄛鈸鋗鋘鉼鏹鐕𨯺開䦕閷𨵷䧦雃嶲霣𩅅𩈚䩮䩶韠𩐊䪲𩒖頋頋頩𩖶飢䬳餩馧駂駾"), (0x2FA08, "䯎𩬰鬒鱀鳽䳎䳭鵧𪃎䳸𪄅𪈎𪊑麻䵖黹黾鼅鼏鼖鼻𪘀")]

def replacement? (c : Char) : Option Char :=
  match replacedRuns.find? (·.covers c.toNat) with
  | some run => some (Char.ofNat (run.partner c.toNat))
  | none => unifiedRuns.findSome? fun (first, unified) =>
      if first ≤ c.toNat then unified.toList[c.toNat - first]? else none

end Prelaunch.Url.Idna

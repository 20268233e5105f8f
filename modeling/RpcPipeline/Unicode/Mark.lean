import RpcPipeline.Unicode.Runs

/-!
# `RpcPipeline.Unicode.Mark`: marks and where they attach

A mark belongs to the character before it. Marks have a class that says where
they attach to it: those of different classes do not get in each other's way, so
their order does not count. The class is zero where the order counts, and for all
characters that are no marks.

* `isMark`: whether a character is a mark.
* `attachment`: the class of a character.
* `isVirama`: whether a character takes the vowel away from the one before it.
-/

set_option autoImplicit false

namespace RpcPipeline.Unicode

namespace Mark

/-- The class of a mark, or `-` where there are no marks. -/
def tableText : String := "
  0:- 300:230 315:232 316:220 31A:232 31B:216 31C:220 321:202 323:220 327:202 329:220 334:1
  339:220 33D:230 345:240 346:230 347:220 34A:230 34D:220 34F:0 350:230 353:220 357:230 358:232
  359:220 35B:230 35C:233 35D:234 35F:233 360:234 362:233 363:230 370:- 483:230 488:0 48A:-
  591:220 592:230 596:220 597:230 59A:222 59B:220 59C:230 5A2:220 5A8:230 5AA:220 5AB:230
  5AD:222 5AE:228 5AF:230 5B0:10 5B1:11 5B2:12 5B3:13 5B4:14 5B5:15 5B6:16 5B7:17 5B8:18 5B9:19
  5BB:20 5BC:21 5BD:22 5BE:- 5BF:23 5C0:- 5C1:24 5C2:25 5C3:- 5C4:230 5C5:220 5C6:- 5C7:18 5C8:-
  610:230 618:30 619:31 61A:32 61B:- 64B:27 64C:28 64D:29 64E:30 64F:31 650:32 651:33 652:34
  653:230 655:220 657:230 65C:220 65D:230 65F:220 660:- 670:35 671:- 6D6:230 6DD:- 6DF:230
  6E3:220 6E4:230 6E5:- 6E7:230 6E9:- 6EA:220 6EB:230 6ED:220 6EE:- 711:36 712:- 730:230 731:220
  732:230 734:220 735:230 737:220 73A:230 73B:220 73D:230 73E:220 73F:230 742:220 743:230
  744:220 745:230 746:220 747:230 748:220 749:230 74B:- 7A6:0 7B1:- 7EB:230 7F2:220 7F3:230
  7F4:- 7FD:220 7FE:- 816:230 81A:- 81B:230 824:- 825:230 828:- 829:230 82E:- 859:220 85C:-
  897:230 899:220 89C:230 8A0:- 8CA:230 8CF:220 8D4:230 8E2:- 8E3:220 8E4:230 8E6:220 8E7:230
  8E9:220 8EA:230 8ED:220 8F0:27 8F1:28 8F2:29 8F3:230 8F6:220 8F7:230 8F9:220 8FB:230 900:0
  904:- 93A:0 93C:7 93D:- 93E:0 94D:9 94E:0 950:- 951:230 952:220 953:230 955:0 958:- 962:0
  964:- 981:0 984:- 9BC:7 9BD:- 9BE:0 9C5:- 9C7:0 9C9:- 9CB:0 9CD:9 9CE:- 9D7:0 9D8:- 9E2:0
  9E4:- 9FE:230 9FF:- A01:0 A04:- A3C:7 A3D:- A3E:0 A43:- A47:0 A49:- A4B:0 A4D:9 A4E:- A51:0
  A52:- A70:0 A72:- A75:0 A76:- A81:0 A84:- ABC:7 ABD:- ABE:0 AC6:- AC7:0 ACA:- ACB:0 ACD:9
  ACE:- AE2:0 AE4:- AFA:0 B00:- B01:0 B04:- B3C:7 B3D:- B3E:0 B45:- B47:0 B49:- B4B:0 B4D:9
  B4E:- B55:0 B58:- B62:0 B64:- B82:0 B83:- BBE:0 BC3:- BC6:0 BC9:- BCA:0 BCD:9 BCE:- BD7:0
  BD8:- C00:0 C05:- C3C:7 C3D:- C3E:0 C45:- C46:0 C49:- C4A:0 C4D:9 C4E:- C55:84 C56:91 C57:-
  C62:0 C64:- C81:0 C84:- CBC:7 CBD:- CBE:0 CC5:- CC6:0 CC9:- CCA:0 CCD:9 CCE:- CD5:0 CD7:-
  CE2:0 CE4:- CF3:0 CF4:- D00:0 D04:- D3B:9 D3D:- D3E:0 D45:- D46:0 D49:- D4A:0 D4D:9 D4E:-
  D57:0 D58:- D62:0 D64:- D81:0 D84:- DCA:9 DCB:- DCF:0 DD5:- DD6:0 DD7:- DD8:0 DE0:- DF2:0
  DF4:- E31:0 E32:- E34:0 E38:103 E3A:9 E3B:- E47:0 E48:107 E4C:0 E4F:- EB1:0 EB2:- EB4:0
  EB8:118 EBA:9 EBB:0 EBD:- EC8:122 ECC:0 ECF:- F18:220 F1A:- F35:220 F36:- F37:220 F38:-
  F39:216 F3A:- F3E:0 F40:- F71:129 F72:130 F73:0 F74:132 F75:0 F7A:130 F7E:0 F80:130 F81:0
  F82:230 F84:9 F85:- F86:230 F88:- F8D:0 F98:- F99:0 FBD:- FC6:220 FC7:- 102B:0 1037:7 1038:0
  1039:9 103B:0 103F:- 1056:0 105A:- 105E:0 1061:- 1062:0 1065:- 1067:0 106E:- 1071:0 1075:-
  1082:0 108D:220 108E:- 108F:0 1090:- 109A:0 109E:- 135D:230 1360:- 1712:0 1714:9 1716:- 1732:0
  1734:9 1735:- 1752:0 1754:- 1772:0 1774:- 17B4:0 17D2:9 17D3:0 17D4:- 17DD:230 17DE:- 180B:0
  180E:- 180F:0 1810:- 1885:0 1887:- 18A9:228 18AA:- 1920:0 192C:- 1930:0 1939:222 193A:230
  193B:220 193C:- 1A17:230 1A18:220 1A19:0 1A1C:- 1A55:0 1A5F:- 1A60:9 1A61:0 1A75:230 1A7D:-
  1A7F:220 1A80:- 1AB0:230 1AB5:220 1ABB:230 1ABD:220 1ABE:0 1ABF:220 1AC1:230 1AC3:220 1AC5:230
  1ACA:220 1ACB:230 1ADD:220 1ADE:- 1AE0:230 1AE6:220 1AE7:230 1AEB:234 1AEC:- 1B00:0 1B05:-
  1B34:7 1B35:0 1B44:9 1B45:- 1B6B:230 1B6C:220 1B6D:230 1B74:- 1B80:0 1B83:- 1BA1:0 1BAA:9
  1BAC:0 1BAE:- 1BE6:7 1BE7:0 1BF2:9 1BF4:- 1C24:0 1C37:7 1C38:- 1CD0:230 1CD3:- 1CD4:1 1CD5:220
  1CDA:230 1CDC:220 1CE0:230 1CE1:0 1CE2:1 1CE9:- 1CED:220 1CEE:- 1CF4:230 1CF5:- 1CF7:0
  1CF8:230 1CFA:- 1DC0:230 1DC2:220 1DC3:230 1DCA:220 1DCB:230 1DCD:234 1DCE:214 1DCF:220
  1DD0:202 1DD1:230 1DF6:232 1DF7:228 1DF9:220 1DFA:218 1DFB:230 1DFC:233 1DFD:220 1DFE:230
  1DFF:220 1E00:- 20D0:230 20D2:1 20D4:230 20D8:1 20DB:230 20DD:0 20E1:230 20E2:0 20E5:1
  20E7:230 20E8:220 20E9:230 20EA:1 20EC:220 20F0:230 20F1:- 2CEF:230 2CF2:- 2D7F:9 2D80:-
  2DE0:230 2E00:- 302A:218 302B:228 302C:232 302D:222 302E:224 3030:- 3099:8 309B:- A66F:230
  A670:0 A673:- A674:230 A67E:- A69E:230 A6A0:- A6F0:230 A6F2:- A802:0 A803:- A806:9 A807:-
  A80B:0 A80C:- A823:0 A828:- A82C:9 A82D:- A880:0 A882:- A8B4:0 A8C4:9 A8C5:0 A8C6:- A8E0:230
  A8F2:- A8FF:0 A900:- A926:0 A92B:220 A92E:- A947:0 A953:9 A954:- A980:0 A984:- A9B3:7 A9B4:0
  A9C0:9 A9C1:- A9E5:0 A9E6:- AA29:0 AA37:- AA43:0 AA44:- AA4C:0 AA4E:- AA7B:0 AA7E:- AAB0:230
  AAB1:- AAB2:230 AAB4:220 AAB5:- AAB7:230 AAB9:- AABE:230 AAC0:- AAC1:230 AAC2:- AAEB:0 AAF0:-
  AAF5:0 AAF6:9 AAF7:- ABE3:0 ABEB:- ABEC:0 ABED:9 ABEE:- FB1E:26 FB1F:- FE00:0 FE10:- FE20:230
  FE27:220 FE2E:230 FE30:- 101FD:220 101FE:- 102E0:220 102E1:- 10376:230 1037B:- 10A01:0 10A04:-
  10A05:0 10A07:- 10A0C:0 10A0D:220 10A0E:0 10A0F:230 10A10:- 10A38:230 10A39:1 10A3A:220
  10A3B:- 10A3F:9 10A40:- 10AE5:230 10AE6:220 10AE7:- 10D24:230 10D28:- 10D69:230 10D6E:-
  10EAB:230 10EAD:- 10EFA:220 10EFC:0 10EFD:220 10F00:- 10F46:220 10F48:230 10F4B:220 10F4C:230
  10F4D:220 10F51:- 10F82:230 10F83:220 10F84:230 10F85:220 10F86:- 11000:0 11003:- 11038:0
  11046:9 11047:- 11070:9 11071:- 11073:0 11075:- 1107F:9 11080:0 11083:- 110B0:0 110B9:9
  110BA:7 110BB:- 110C2:0 110C3:- 11100:230 11103:- 11127:0 11133:9 11135:- 11145:0 11147:-
  11173:7 11174:- 11180:0 11183:- 111B3:0 111C0:9 111C1:- 111C9:0 111CA:7 111CB:0 111CD:-
  111CE:0 111D0:- 1122C:0 11235:9 11236:7 11237:0 11238:- 1123E:0 1123F:- 11241:0 11242:-
  112DF:0 112E9:7 112EA:9 112EB:- 11300:0 11304:- 1133B:7 1133D:- 1133E:0 11345:- 11347:0
  11349:- 1134B:0 1134D:9 1134E:- 11357:0 11358:- 11362:0 11364:- 11366:230 1136D:- 11370:230
  11375:- 113B8:0 113C1:- 113C2:0 113C3:- 113C5:0 113C6:- 113C7:0 113CB:- 113CC:0 113CE:9
  113D1:- 113D2:0 113D3:- 113E1:0 113E3:- 11435:0 11442:9 11443:0 11446:7 11447:- 1145E:230
  1145F:- 114B0:0 114C2:9 114C3:7 114C4:- 115AF:0 115B6:- 115B8:0 115BF:9 115C0:7 115C1:-
  115DC:0 115DE:- 11630:0 1163F:9 11640:0 11641:- 116AB:0 116B6:9 116B7:7 116B8:- 1171D:0
  1172B:9 1172C:- 1182C:0 11839:9 1183A:7 1183B:- 11930:0 11936:- 11937:0 11939:- 1193B:0
  1193D:9 1193F:- 11940:0 11941:- 11942:0 11943:7 11944:- 119D1:0 119D8:- 119DA:0 119E0:9
  119E1:- 119E4:0 119E5:- 11A01:0 11A0B:- 11A33:0 11A34:9 11A35:0 11A3A:- 11A3B:0 11A3F:-
  11A47:9 11A48:- 11A51:0 11A5C:- 11A8A:0 11A99:9 11A9A:- 11B60:0 11B68:- 11C2F:0 11C37:-
  11C38:0 11C3F:9 11C40:- 11C92:0 11CA8:- 11CA9:0 11CB7:- 11D31:0 11D37:- 11D3A:0 11D3B:-
  11D3C:0 11D3E:- 11D3F:0 11D42:7 11D43:0 11D44:9 11D46:- 11D47:0 11D48:- 11D8A:0 11D8F:-
  11D90:0 11D92:- 11D93:0 11D97:9 11D98:- 11EF3:0 11EF7:- 11F00:0 11F02:- 11F03:0 11F04:-
  11F34:0 11F3B:- 11F3E:0 11F41:9 11F43:- 11F5A:0 11F5B:- 13440:0 13441:- 13447:0 13456:-
  1611E:0 1612F:9 16130:- 16AF0:1 16AF5:- 16B30:230 16B37:- 16F4F:0 16F50:- 16F51:0 16F88:-
  16F8F:0 16F93:- 16FE4:0 16FE5:- 16FF0:6 16FF2:- 1BC9D:0 1BC9E:1 1BC9F:- 1CF00:0 1CF2E:-
  1CF30:0 1CF47:- 1D165:216 1D167:1 1D16A:- 1D16D:226 1D16E:216 1D173:- 1D17B:220 1D183:-
  1D185:230 1D18A:220 1D18C:- 1D1AA:230 1D1AE:- 1D242:230 1D245:- 1DA00:0 1DA37:- 1DA3B:0
  1DA6D:- 1DA75:0 1DA76:- 1DA84:0 1DA85:- 1DA9B:0 1DAA0:- 1DAA1:0 1DAB0:- 1E000:230 1E007:-
  1E008:230 1E019:- 1E01B:230 1E022:- 1E023:230 1E025:- 1E026:230 1E02B:- 1E08F:230 1E090:-
  1E130:230 1E137:- 1E2AE:230 1E2AF:- 1E2EC:230 1E2F0:- 1E4EC:232 1E4EE:220 1E4EF:230 1E4F0:-
  1E5EE:230 1E5EF:220 1E5F0:- 1E6E3:230 1E6E4:- 1E6E6:230 1E6E7:- 1E6EE:230 1E6F0:- 1E6F5:230
  1E6F6:- 1E8D0:220 1E8D7:- 1E944:230 1E94A:7 1E94B:- E0100:0 E01F0:-
"

/-- Reads a class in decimal digits. -/
def readClass : List Char → Option Nat
  | ['-'] => none
  | digits => some (digits.foldl (fun n c => 10 * n + (c.toNat - 48)) 0)

/-- The classes of marks. -/
def table : Runs (Option Nat) := .read readClass tableText

/-- The class of a mark; none if a character is none. -/
def class? (c : Char) : Option Nat :=
  if c.toNat < 0x80 then none else (table.get? c).join

end Mark

/-- Whether a character is a mark. -/
def isMark (c : Char) : Bool := (Mark.class? c).isSome

/-- Where a character attaches to the one before it; zero if it does not, or if
the order of marks counts. -/
def attachment (c : Char) : Nat := (Mark.class? c).getD 0

/-- The class of the signs that take a vowel away. -/
def viramaClass : Nat := 9

/-- Whether a character takes the vowel away from the one before it. -/
def isVirama (c : Char) : Bool := attachment c = viramaClass

end RpcPipeline.Unicode

import RpcPipeline.Unicode.Runs

/-!
# `RpcPipeline.Unicode.Folding`: one form for characters of a name

Names that differ only in the case, the width or the shape of their characters
are the same name. Folding brings every character to one form: capitals become
small letters, characters that are only there for compatibility become the ones
that they stand for, and some leave no trace. Many characters have no place in a
name at all. Every character outside ASCII that is kept is in its composed form
already.

* `Folding`: what happens to the characters of a run.
* `fold?`: what a character becomes.
-/

set_option autoImplicit false

namespace RpcPipeline.Unicode

/-- What folding does to the characters of a run. -/
inductive Folding where
  /-- They stay as they are. -/
  | keep
  /-- They have no place in a name. -/
  | bar
  /-- They are left out. -/
  | drop
  /-- They become the characters at a distance behind them. -/
  | forward (distance : Nat)
  /-- They become the characters at a distance before them. -/
  | backward (distance : Nat)
  /-- The first and every second one after it are capitals, and the small letter of
  a capital is next to it. -/
  | pairs
  /-- They become a text. -/
  | replace (text : List Char)
  deriving Repr

namespace Folding

/-- Reads what folding does: a letter, a signed distance, or the characters of a
text by number, between points. -/
def read : List Char → Folding
  | ['k'] => keep
  | ['x'] => bar
  | ['d'] => drop
  | ['p'] => pairs
  | '+' :: distance => forward (ofHex distance)
  | '-' :: distance => backward (ofHex distance)
  | text => replace ((Text.pieces (· = '.') text).map (Char.ofNat <| ofHex ·))

/-- What becomes of a code point in a run that starts at `start`. -/
def result? (f : Folding) (start n : Nat) : Option (List Char) :=
  match f with
  | keep => some [Char.ofNat n]
  | bar => none
  | drop => some []
  | forward distance => some [Char.ofNat (n + distance)]
  | backward distance => some [Char.ofNat (n - distance)]
  | pairs => some [Char.ofNat (if (n - start) % 2 = 0 then n + 1 else n)]
  | replace text => some text

/-- What folding does, as text: `k` keeps, `x` bars, `d` drops, and `p` stands for
pairs. -/
def tableText : String := "
  0:k 41:+20 5B:k 80:x A0:20 k A8:20.308 k 61 k AD:d k 20.304 k B2:-80 B4:20.301 3BC k B8:20.327
  31 6F k 31.2044.34 31.2044.32 33.2044.34 k +20 D7:k +20 DF:k 100:p 130:69.307 k 69.6A 69.6A p
  138:k p 13F:6C.B7 6C.B7 p 149:2BC.6E p 178:FF p 17F:73 k 253 p 186:254 188 k +CD 18B:18C k
  18E:1DD 259 25B 192 k 260 263 k 269 268 199 k 19C:26F 272 k 275 p 1A6:280 1A8 k 283 k 1AC:1AD
  k 288 1B0 k +D9 1B3:p 1B7:292 1B9 k 1BC:1BD k 1C4:64.17E 64.17E 64.17E 6C.6A 6C.6A 6C.6A 6E.6A
  6E.6A 6E.6A p 1DD:k p 1F0:k 64.7A 64.7A 64.7A 1F5 k 195 1BF p 220:19E k p 234:k 23A:2C65 23C k
  19A 2C66 k 241:242 k 180 289 28C p 250:k 2B0:68 266 6A 72 279 27B 281 77 79 k 2D8:20.306
  20.307 20.30A 20.328 20.303 20.30B k 2E0:263 6C 73 78 295 k 340:-40 342:k 313 308.301 3B9 k
  34F:d k 370:p 374:2B9 k 377 k x 37A:20.3B9 k 37E:3B 3F3 x 384:20.301 20.308.301 3AC B7 +25
  38B:x 3CC x +3F 390:k +20 3A2:x +20 3AC:k 3CF:3D7 3B2 3B8 3C5 3CD 3CB 3C6 3C0 k p 3F0:3BA 3C1
  3C3 k 3B8 3B5 k 3F8 k 3C3 3FB k 3FD:-82 400:+50 410:+20 430:k 460:p 482:k 48A:p 4C0:4CF p
  4CF:k p 530:x +30 557:x 559:k 587:565.582 k 58B:x 58D:k 590:x k 5C8:x 5D0:k 5EB:x 5EF:k 5F5:x
  606:k 61C:x k 675:627.674 648.674 6C7.674 64A.674 k 6DD:x k 70E:x 710:k 74B:x 74D:k 7B2:x
  7C0:k 7FB:x 7FD:k 82E:x 830:k 83F:x k 85C:x 85E:k x k 86B:x 870:k 890:x 897:k 8E2:x k
  958:915.93C 916.93C 917.93C 91C.93C 921.93C 922.93C 92B.93C 92F.93C k 984:x k 98D:x 98F:k
  991:x 993:k 9A9:x k 9B1:x k x 9B6:k 9BA:x 9BC:k 9C5:x 9C7:k 9C9:x 9CB:k 9CF:x 9D7:k x
  9DC:9A1.9BC 9A2.9BC x 9AF.9BC k 9E4:x 9E6:k 9FF:x A01:k A04:x k A0B:x A0F:k A11:x A13:k A29:x
  k A31:x k A32.A3C x k A38.A3C x k A3A:x A3C:k x k A43:x A47:k A49:x A4B:k A4E:x A51:k x
  A59:A16.A3C A17.A3C A1C.A3C k x A2B.A3C x A66:k A77:x A81:k A84:x k A8E:x k A92:x k AA9:x k
  AB1:x k AB4:x k ABA:x ABC:k AC6:x k ACA:x k ACE:x AD0:k x AE0:k AE4:x AE6:k AF2:x AF9:k B00:x
  k B04:x k B0D:x B0F:k B11:x B13:k B29:x k B31:x k B34:x k B3A:x B3C:k B45:x B47:k B49:x B4B:k
  B4E:x B55:k B58:x B5C:B21.B3C B22.B3C x k B64:x B66:k B78:x B82:k B84:x k B8B:x B8E:k B91:x k
  B96:x B99:k B9B:x k x k BA0:x BA3:k BA5:x BA8:k BAB:x BAE:k BBA:x BBE:k BC3:x BC6:k BC9:x k
  BCE:x BD0:k x BD7:k x BE6:k BFB:x C00:k C0D:x k C11:x k C29:x k C3A:x C3C:k C45:x k C49:x k
  C4E:x C55:k C57:x k C5B:x k C5E:x C60:k C64:x C66:k C70:x C77:k C8D:x k C91:x k CA9:x k CB4:x
  k CBA:x CBC:k CC5:x k CC9:x k CCE:x CD5:k CD7:x CDC:k CDF:x k CE4:x CE6:k CF0:x k CF4:x D00:k
  D0D:x k D11:x k D45:x k D49:x k D50:x D54:k D64:x D66:k D80:x k D84:x k D97:x D9A:k DB2:x k
  DBC:x k x DC0:k DC7:x DCA:k x DCF:k DD5:x k x k DE0:x DE6:k DF0:x DF2:k DF5:x E01:k
  E33:E4D.E32 k E3B:x E3F:k E5C:x E81:k E83:x k x k E8B:x k EA4:x k x k EB3:ECD.EB2 k EBE:x
  EC0:k EC5:x k x k ECF:x k EDA:x EDC:EAB.E99 EAB.EA1 k EE0:x F00:k F0C:F0B k F43:F42.FB7 k
  F48:x k F4D:F4C.FB7 k F52:F51.FB7 k F57:F56.FB7 k F5C:F5B.FB7 k F69:F40.FB5 k F6D:x F71:k
  F73:F71.F72 k F71.F74 FB2.F80 FB2.F71.F80 FB3.F80 FB3.F71.F80 k F81:F71.F80 k F93:F92.FB7 k
  F98:x k F9D:F9C.FB7 k FA2:FA1.FB7 k FA7:FA6.FB7 k FAC:FAB.FB7 k FB9:F90.FB5 k FBD:x k FCD:x k
  FDB:x 1000:k 10A0:+1C60 10C6:x 2D27 x 10CD:2D2D x 10D0:k 10FC:10DC k 115F:d 1161:k 1249:x k
  124E:x 1250:k 1257:x k x k 125E:x 1260:k 1289:x k 128E:x 1290:k 12B1:x k 12B6:x 12B8:k 12BF:x
  k x k 12C6:x 12C8:k 12D7:x k 1311:x k 1316:x 1318:k 135B:x 135D:k 137D:x 1380:k 139A:x 13A0:k
  13F6:x 13F8:-8 13FE:x 1400:k 1680:x k 169D:x 16A0:k 16F9:x 1700:k 1716:x 171F:k 1737:x 1740:k
  1754:x 1760:k 176D:x k 1771:x k 1774:x 1780:k 17B4:d 17B6:k 17DE:x 17E0:k 17EA:x 17F0:k 17FA:x
  1800:k 180B:d 1810:k 181A:x 1820:k 1879:x 1880:k 18AB:x 18B0:k 18F6:x 1900:k 191F:x k 192C:x
  1930:k 193C:x 1940:k x 1944:k 196E:x 1970:k 1975:x 1980:k 19AC:x 19B0:k 19CA:x 19D0:k 19DB:x
  19DE:k 1A1C:x 1A1E:k 1A5F:x k 1A7D:x 1A7F:k 1A8A:x 1A90:k 1A9A:x 1AA0:k 1AAE:x 1AB0:k 1ADE:x
  1AE0:k 1AEC:x 1B00:k 1B4D:x k 1BF4:x 1BFC:k 1C38:x 1C3B:k 1C4A:x 1C4D:k 1C80:432 434 43E -1842
  1C85:442 44A 463 A64B 1C8A k x 1C90:-BC0 1CBB:x 1CBD:-BC0 1CC0:k 1CC8:x 1CD0:k 1CFB:x 1D00:k
  1D2C:61 E6 62 k -1CCC 1D32:1DD -1CCC 1D3B:k 6F 223 70 72 -1CCC 1D42:77 61 -1AF4 1D46:1D02 62
  -1CE4 1D4A:259 -1AF0 1D4D:67 k 6B 6D 14B 6F 254 -3E 1D56:70 -1CE3 1D59:1D1D 26F 76 1D25 -19AB
  1D60:-199A 1D62:69 72 -1CEF 1D66:-19B4 1D68:3C1 -19A3 1D6B:k 1D78:43D k 1D9B:252 63 255 F0 25C
  66 25F 261 265 -1B3C 1DA7:1D7B 29D 26D 1D85 29F 271 270 -1B3C 1DB2:278 -1B31 1DB5:1AB -1B2D
  1DB8:1D1C -1B2E 1DBB:7A -1B2C 1DBF:3B8 k 1E00:p 1E96:k 1E9A:61.2BE 1E61 k 1E9E:DF k p 1F00:k
  1F08:-8 1F10:k 1F16:x 1F18:-8 1F1E:x 1F20:k 1F28:-8 1F30:k 1F38:-8 1F40:k 1F46:x 1F48:-8
  1F4E:x 1F50:k 1F58:x 1F51 x 1F53 x 1F55 x 1F57 k 1F68:-8 1F70:k 3AC k 3AD k 3AE k 3AF k 3CC k
  3CD k 3CE x 1F80:1F00.3B9 1F01.3B9 1F02.3B9 1F03.3B9 1F04.3B9 1F05.3B9 1F06.3B9 1F07.3B9
  1F00.3B9 1F01.3B9 1F02.3B9 1F03.3B9 1F04.3B9 1F05.3B9 1F06.3B9 1F07.3B9 1F20.3B9 1F21.3B9
  1F22.3B9 1F23.3B9 1F24.3B9 1F25.3B9 1F26.3B9 1F27.3B9 1F20.3B9 1F21.3B9 1F22.3B9 1F23.3B9
  1F24.3B9 1F25.3B9 1F26.3B9 1F27.3B9 1F60.3B9 1F61.3B9 1F62.3B9 1F63.3B9 1F64.3B9 1F65.3B9
  1F66.3B9 1F67.3B9 1F60.3B9 1F61.3B9 1F62.3B9 1F63.3B9 1F64.3B9 1F65.3B9 1F66.3B9 1F67.3B9 k
  1FB2:1F70.3B9 3B1.3B9 3AC.3B9 x k 1FB6.3B9 -8 1FBA:1F70 3AC 3B1.3B9 20.313 3B9 20.313 20.342
  20.308.342 1F74.3B9 3B7.3B9 3AE.3B9 x k 1FC6.3B9 1F72 3AD 1F74 3AE 3B7.3B9 20.313.300
  20.313.301 20.313.342 k 1FD3:390 x 1FD6:k 1FD8:-8 1FDA:1F76 3AF x 20.314.300 20.314.301
  20.314.342 k 1FE3:3B0 k 1FE8:-8 1FEA:1F7A 3CD 1FE5 20.308.300 20.308.301 60 x 1FF2:1F7C.3B9
  3C9.3B9 3CE.3B9 x k 1FF6.3B9 1F78 3CC 1F7C 3CE 3C9.3B9 20.301 20.314 x 20 20 20 20 20 20 20 20
  20 20 20 d k 200E:x 2010:k 2010 k 2017:20.333 k 2024:x 2027:k x 202F:20 k 2033:2032.2032
  2032.2032.2032 k 2035.2035 2035.2035.2035 k 203C:21.21 k 20.305 k 2047:3F.3F 3F.21 21.3F k
  2057:2032.2032.2032.2032 k 205F:20 d 2065:x 206A:d 2070:30 69 x 2074:-2040 207A:2B 2212 3D
  -2055 207F:6E -2050 208A:2B 2212 3D -2065 208F:x 61 65 6F 78 259 68 -202B 209A:70 -2028 209D:x
  20A0:k 20A8:72.73 k 20C2:x 20D0:k 20F1:x 2100:61.2F.63 61.2F.73 63 B0.63 k 63.2F.6F 63.2F.75
  25B k B0.66 -20A3 210C:68 68 68 127 69 69 6C 6C k 6E 6E.6F k 2119:-20A9 211C:72 72 k
  2120:73.6D 74.65.6C 74.6D k 7A k 3C9 k 7A k 6B E5 -20CA 212E:k 65 -20CB 2132:214E 6D 6F -1B65
  2139:69 k 66.61.78 3C0 3B3 3B3 3C0 2211 k 2145:64 -20E2 2148:-20DF 214A:k 2150:31.2044.37
  31.2044.39 31.2044.31.30 31.2044.33 32.2044.33 31.2044.35 32.2044.35 33.2044.35 34.2044.35
  31.2044.36 35.2044.36 31.2044.38 33.2044.38 35.2044.38 37.2044.38 31.2044 69 69.69 69.69.69
  69.76 76 76.69 76.69.69 76.69.69.69 69.78 78 78.69 78.69.69 6C -210A 216F:6D 69 69.69 69.69.69
  69.76 76 76.69 76.69.69 76.69.69.69 69.78 78 78.69 78.69.69 6C -211A 217F:6D k 2183:2184 k
  2189:30.2044.33 k 218C:x 2190:k 222C:222B.222B 222B.222B.222B k 222E.222E 222E.222E.222E k
  2329:+CDF 232B:k 242A:x 2440:k 244B:x 2460:-242F 2469:31.30 31.31 31.32 31.33 31.34 31.35
  31.36 31.37 31.38 31.39 32.30 28.31.29 28.32.29 28.33.29 28.34.29 28.35.29 28.36.29 28.37.29
  28.38.29 28.39.29 28.31.30.29 28.31.31.29 28.31.32.29 28.31.33.29 28.31.34.29 28.31.35.29
  28.31.36.29 28.31.37.29 28.31.38.29 28.31.39.29 28.32.30.29 x 249C:28.61.29 28.62.29 28.63.29
  28.64.29 28.65.29 28.66.29 28.67.29 28.68.29 28.69.29 28.6A.29 28.6B.29 28.6C.29 28.6D.29
  28.6E.29 28.6F.29 28.70.29 28.71.29 28.72.29 28.73.29 28.74.29 28.75.29 28.76.29 28.77.29
  28.78.29 28.79.29 28.7A.29 -2455 24D0:-246F 24EA:30 k 2A0C:222B.222B.222B.222B k 2A74:3A.3A.3D
  3D.3D 3D.3D.3D k 2ADC:2ADD.338 k 2B74:x 2B76:k 2C00:+30 2C30:k 2C60:2C61 k 26B 1D7D 27D k
  2C67:p 2C6D:251 271 250 252 k 2C73 k 2C75:2C76 k 2C7C:6A 76 -2A3F 2C80:p 2CE4:k 2CEB:p 2CEF:k
  2CF2:2CF3 k x 2CF9:k 2D26:x k x 2D2D:k x 2D30:k 2D68:x 2D6F:2D61 k x 2D7F:k 2D97:x 2DA0:k
  2DA7:x k 2DAF:x k 2DB7:x k 2DBF:x k 2DC7:x k 2DCF:x k 2DD7:x k 2DDF:x k 2E5E:x 2E80:k 2E9A:x k
  2E9F:6BCD k 2EF3:9F9F x 2F00:4E00 4E28 4E36 4E3F 4E59 4E85 4E8C 4EA0 4EBA 513F 5165 516B 5182
  5196 51AB 51E0 51F5 5200 529B 52F9 5315 531A 5338 5341 535C 5369 5382 53B6 53C8 53E3 56D7 571F
  58EB 5902 590A 5915 5927 5973 5B50 5B80 5BF8 5C0F 5C22 5C38 5C6E 5C71 5DDB 5DE5 5DF1 5DFE 5E72
  5E7A 5E7F 5EF4 5EFE 5F0B 5F13 5F50 5F61 5F73 5FC3 6208 6236 624B 652F 6534 6587 6597 65A4 65B9
  65E0 65E5 66F0 6708 6728 6B20 6B62 6B79 6BB3 6BCB 6BD4 6BDB 6C0F 6C14 6C34 706B 722A 7236 723B
  723F 7247 7259 725B 72AC 7384 7389 74DC 74E6 7518 751F 7528 7530 758B 7592 7676 767D 76AE 76BF
  76EE 77DB 77E2 77F3 793A 79B8 79BE 7A74 7ACB 7AF9 7C73 7CF8 7F36 7F51 7F8A 7FBD 8001 800C 8012
  8033 807F 8089 81E3 81EA 81F3 81FC 820C 821B 821F 826E 8272 8278 864D 866B 8840 884C 8863 897E
  898B 89D2 8A00 8C37 8C46 8C55 8C78 8C9D 8D64 8D70 8DB3 8EAB 8ECA 8F9B 8FB0 8FB5 9091 9149 91C6
  91CC 91D1 9577 9580 961C 96B6 96B9 96E8 9751 975E 9762 9769 97CB 97ED 97F3 9801 98A8 98DB 98DF
  9996 9999 99AC 9AA8 9AD8 9ADF 9B25 9B2F 9B32 9B3C 9B5A 9CE5 9E75 9E7F 9EA5 9EBB 9EC3 9ECD 9ED1
  9EF9 9EFD 9F0E 9F13 9F20 9F3B 9F4A 9F52 9F8D 9F9C 9FA0 x 3000:20 k 2E k 3036:3012 k 5341 +230B
  303B:k 3040:x k 3097:x 3099:k 309B:20.3099 20.309A k 309F:3088.308A k 30FF:30B3.30C8 x 3105:k
  3130:x -2031 3133:11AA 1102 -1F89 3137:-2034 313A:-1F8A 3140:111A -203B 3144:1121 -203C
  314F:-1FEE 3164:d -2051 3167:-1FA0 3169:11CC 11CE 11D3 11D7 11D9 111C 11DD 11DF -2054
  3173:1120 -2052 3176:1127 1129 -204D 317D:1132 1136 1140 1147 114C -1F91 3184:-202D 3187:-2003
  3189:1188 -1FF9 318C:1194 119E 11A1 x k 3192:4E00 4E8C 4E09 56DB 4E0A 4E2D 4E0B 7532 4E59 4E19
  4E01 5929 5730 4EBA k 31E6:x 31F0:k 3200:28.1100.29 28.1102.29 28.1103.29 28.1105.29
  28.1106.29 28.1107.29 28.1109.29 28.110B.29 28.110C.29 28.110E.29 28.110F.29 28.1110.29
  28.1111.29 28.1112.29 28.AC00.29 28.B098.29 28.B2E4.29 28.B77C.29 28.B9C8.29 28.BC14.29
  28.C0AC.29 28.C544.29 28.C790.29 28.CC28.29 28.CE74.29 28.D0C0.29 28.D30C.29 28.D558.29
  28.C8FC.29 28.C624.C804.29 28.C624.D6C4.29 x 28.4E00.29 28.4E8C.29 28.4E09.29 28.56DB.29
  28.4E94.29 28.516D.29 28.4E03.29 28.516B.29 28.4E5D.29 28.5341.29 28.6708.29 28.706B.29
  28.6C34.29 28.6728.29 28.91D1.29 28.571F.29 28.65E5.29 28.682A.29 28.6709.29 28.793E.29
  28.540D.29 28.7279.29 28.8CA1.29 28.795D.29 28.52B4.29 28.4EE3.29 28.547C.29 28.5B66.29
  28.76E3.29 28.4F01.29 28.8CC7.29 28.5354.29 28.796D.29 28.4F11.29 28.81EA.29 28.81F3.29 554F
  5E7C 6587 7B8F k 3250:70.74.65 32.31 32.32 32.33 32.34 32.35 32.36 32.37 32.38 32.39 33.30
  33.31 33.32 33.33 33.34 33.35 1100 -215F 3263:-215E 3266:1109 -215C 3269:-215B 326E:AC00 B098
  B2E4 B77C B9C8 BC14 C0AC C544 C790 CC28 CE74 D0C0 D30C D558 CC38.ACE0 C8FC.C758 C6B0 k 4E00
  4E8C 4E09 56DB 4E94 516D 4E03 516B 4E5D 5341 6708 706B 6C34 6728 91D1 571F 65E5 682A 6709 793E
  540D 7279 8CA1 795D 52B4 79D8 7537 5973 9069 512A 5370 6CE8 9805 4F11 5199 6B63 4E0A 4E2D 4E0B
  5DE6 53F3 533B 5B97 5B66 76E3 4F01 8CC7 5354 591C 33.36 33.37 33.38 33.39 34.30 34.31 34.32
  34.33 34.34 34.35 34.36 34.37 34.38 34.39 35.30 31.6708 32.6708 33.6708 34.6708 35.6708
  36.6708 37.6708 38.6708 39.6708 31.30.6708 31.31.6708 31.32.6708 68.67 65.72.67 65.76 6C.74.64
  30A2 30A4 30A6 30A8 -22A 32D6:30AD 30AF 30B1 30B3 30B5 30B7 30B9 30BB 30BD 30BF 30C1 30C4 30C6
  30C8 -21A 32EA:30D2 30D5 30D8 30DB -210 32F3:30E4 30E6 -20D 32FB:-20C 32FF:4EE4.548C
  30A2.30D1.30FC.30C8 30A2.30EB.30D5.30A1 30A2.30F3.30DA.30A2 30A2.30FC.30EB 30A4.30CB.30F3.30B0
  30A4.30F3.30C1 30A6.30A9.30F3 30A8.30B9.30AF.30FC.30C9 30A8.30FC.30AB.30FC 30AA.30F3.30B9
  30AA.30FC.30E0 30AB.30A4.30EA 30AB.30E9.30C3.30C8 30AB.30ED.30EA.30FC 30AC.30ED.30F3
  30AC.30F3.30DE 30AE.30AC 30AE.30CB.30FC 30AD.30E5.30EA.30FC 30AE.30EB.30C0.30FC 30AD.30ED
  30AD.30ED.30B0.30E9.30E0 30AD.30ED.30E1.30FC.30C8.30EB 30AD.30ED.30EF.30C3.30C8 30B0.30E9.30E0
  30B0.30E9.30E0.30C8.30F3 30AF.30EB.30BC.30A4.30ED 30AF.30ED.30FC.30CD 30B1.30FC.30B9
  30B3.30EB.30CA 30B3.30FC.30DD 30B5.30A4.30AF.30EB 30B5.30F3.30C1.30FC.30E0 30B7.30EA.30F3.30B0
  30BB.30F3.30C1 30BB.30F3.30C8 30C0.30FC.30B9 30C7.30B7 30C9.30EB 30C8.30F3 30CA.30CE
  30CE.30C3.30C8 30CF.30A4.30C4 30D1.30FC.30BB.30F3.30C8 30D1.30FC.30C4 30D0.30FC.30EC.30EB
  30D4.30A2.30B9.30C8.30EB 30D4.30AF.30EB 30D4.30B3 30D3.30EB 30D5.30A1.30E9.30C3.30C9
  30D5.30A3.30FC.30C8 30D6.30C3.30B7.30A7.30EB 30D5.30E9.30F3 30D8.30AF.30BF.30FC.30EB 30DA.30BD
  30DA.30CB.30D2 30D8.30EB.30C4 30DA.30F3.30B9 30DA.30FC.30B8 30D9.30FC.30BF 30DD.30A4.30F3.30C8
  30DC.30EB.30C8 30DB.30F3 30DD.30F3.30C9 30DB.30FC.30EB 30DB.30FC.30F3 30DE.30A4.30AF.30ED
  30DE.30A4.30EB 30DE.30C3.30CF 30DE.30EB.30AF 30DE.30F3.30B7.30E7.30F3 30DF.30AF.30ED.30F3
  30DF.30EA 30DF.30EA.30D0.30FC.30EB 30E1.30AC 30E1.30AC.30C8.30F3 30E1.30FC.30C8.30EB
  30E4.30FC.30C9 30E4.30FC.30EB 30E6.30A2.30F3 30EA.30C3.30C8.30EB 30EA.30E9 30EB.30D4.30FC
  30EB.30FC.30D6.30EB 30EC.30E0 30EC.30F3.30C8.30B2.30F3 30EF.30C3.30C8 30.70B9 31.70B9 32.70B9
  33.70B9 34.70B9 35.70B9 36.70B9 37.70B9 38.70B9 39.70B9 31.30.70B9 31.31.70B9 31.32.70B9
  31.33.70B9 31.34.70B9 31.35.70B9 31.36.70B9 31.37.70B9 31.38.70B9 31.39.70B9 32.30.70B9
  32.31.70B9 32.32.70B9 32.33.70B9 32.34.70B9 68.70.61 64.61 61.75 62.61.72 6F.76 70.63 64.6D
  64.6D.32 64.6D.33 69.75 5E73.6210 662D.548C 5927.6B63 660E.6CBB 682A.5F0F.4F1A.793E 70.61
  6E.61 3BC.61 6D.61 6B.61 6B.62 6D.62 67.62 63.61.6C 6B.63.61.6C 70.66 6E.66 3BC.66 3BC.67
  6D.67 6B.67 68.7A 6B.68.7A 6D.68.7A 67.68.7A 74.68.7A 3BC.6C 6D.6C 64.6C 6B.6C 66.6D 6E.6D
  3BC.6D 6D.6D 63.6D 6B.6D 6D.6D.32 63.6D.32 6D.32 6B.6D.32 6D.6D.33 63.6D.33 6D.33 6B.6D.33
  6D.2215.73 6D.2215.73.32 70.61 6B.70.61 6D.70.61 67.70.61 72.61.64 72.61.64.2215.73
  72.61.64.2215.73.32 70.73 6E.73 3BC.73 6D.73 70.76 6E.76 3BC.76 6D.76 6B.76 6D.76 70.77 6E.77
  3BC.77 6D.77 6B.77 6D.77 6B.3C9 6D.3C9 x 62.71 63.63 63.64 63.2215.6B.67 x 64.62 67.79 68.61
  68.70 69.6E 6B.6B 6B.6D 6B.74 6C.6D 6C.6E 6C.6F.67 6C.78 6D.62 6D.69.6C 6D.6F.6C 70.68 x
  70.70.6D 70.72 73.72 73.76 77.62 76.2215.6D 61.2215.6D 31.65E5 32.65E5 33.65E5 34.65E5 35.65E5
  36.65E5 37.65E5 38.65E5 39.65E5 31.30.65E5 31.31.65E5 31.32.65E5 31.33.65E5 31.34.65E5
  31.35.65E5 31.36.65E5 31.37.65E5 31.38.65E5 31.39.65E5 32.30.65E5 32.31.65E5 32.32.65E5
  32.33.65E5 32.34.65E5 32.35.65E5 32.36.65E5 32.37.65E5 32.38.65E5 32.39.65E5 33.30.65E5
  33.31.65E5 67.61.6C k A48D:x A490:k A4C7:x A4D0:k A62C:x A640:p A66E:k A680:p A69C:44A 44C k
  A6F8:x A700:k A722:p A730:k A732:p A770:A76F k A779:p A77D:1D79 p A788:k A78B:A78C k 265 k
  A790:p A794:k A796:p A7AA:266 25C 261 26C 26A k 29E 287 29D AB53 p A7C4:A794 282 1D8E p
  A7CB:264 p A7DC:19B x A7F1:73 63 66 71 A7F6 k A7F8:127 153 k A82D:x A830:k A83A:x A840:k
  A878:x A880:k A8C6:x A8CE:k A8DA:x A8E0:k A954:x A95F:k A97D:x A980:k A9CE:x k A9DA:x A9DE:k
  A9FF:x k AA37:x AA40:k AA4E:x AA50:k AA5A:x AA5C:k AAC3:x AADB:k AAF7:x AB01:k AB07:x AB09:k
  AB0F:x AB11:k AB17:x AB20:k AB27:x k AB2F:x k AB5C:A727 AB37 26B AB52 k AB69:28D k AB6C:x
  AB70:-97D0 ABC0:k ABEE:x ABF0:k ABFA:x AC00:k D7A4:x D7B0:k D7C7:x D7CB:k D7FC:x F900:8C48
  66F4 8ECA 8CC8 6ED1 4E32 53E5 9F9C 9F9C 5951 91D1 5587 5948 61F6 7669 7F85 863F 87BA 88F8 908F
  6A02 6D1B 70D9 73DE 843D 916A 99F1 4E82 5375 6B04 721B 862D 9E1E 5D50 6FEB 85CD 8964 62C9 81D8
  881F 5ECA 6717 6D6A 72FC 90CE 4F86 51B7 52DE 64C4 6AD3 7210 76E7 8001 8606 865C 8DEF 9732 9B6F
  9DFA 788C 797F 7DA0 83C9 9304 9E7F 8AD6 58DF 5F04 7C60 807E 7262 78CA 8CC2 96F7 58D8 5C62 6A13
  6DDA 6F0F 7D2F 7E37 964B 52D2 808B 51DC 51CC 7A1C 7DBE 83F1 9675 8B80 62CF 6A02 8AFE 4E39 5BE7
  6012 7387 7570 5317 78FB 4FBF 5FA9 4E0D 6CCC 6578 7D22 53C3 585E 7701 8449 8AAA 6BBA 8FB0 6C88
  62FE 82E5 63A0 7565 4EAE 5169 51C9 6881 7CE7 826F 8AD2 91CF 52F5 5442 5973 5EEC 65C5 6FFE 792A
  95AD 9A6A 9E97 9ECE 529B 66C6 6B77 8F62 5E74 6190 6200 649A 6F23 7149 7489 79CA 7DF4 806F 8F26
  84EE 9023 934A 5217 52A3 54BD 70C8 88C2 8AAA 5EC9 5FF5 637B 6BAE 7C3E 7375 4EE4 56F9 5BE7 5DBA
  601C 73B2 7469 7F9A 8046 9234 96F6 9748 9818 4F8B 79AE 91B4 96B8 60E1 4E86 50DA 5BEE 5C3F 6599
  6A02 71CE 7642 84FC 907C 9F8D 6688 962E 5289 677B 67F3 6D41 6E9C 7409 7559 786B 7D10 985E 516D
  622E 9678 502B 5D19 6DEA 8F2A 5F8B 6144 6817 7387 9686 5229 540F 5C65 6613 674E 68A8 6CE5 7406
  75E2 7F79 88CF 88E1 91CC 96E2 533F 6EBA 541D 71D0 7498 85FA 96A3 9C57 9E9F 6797 6DCB 81E8 7ACB
  7B20 7C92 72C0 7099 8B58 4EC0 8336 523A 5207 5EA6 62D3 7CD6 5B85 6D1E 66B4 8F3B 884C 964D 898B
  5ED3 5140 55C0 k FA10:585A k 6674 k FA15:51DE 732A 76CA 793C 795E 7965 798F 9756 7CBE 7FBD k
  8612 k 8AF8 k FA25:9038 90FD k FA2A:98EF 98FC 9928 9DB4 90DE 96B7 4FAE 50E7 514D 52C9 52E4
  5351 559D 5606 5668 5840 58A8 5C64 5C6E 6094 6168 618E 61F2 654F 65E2 6691 6885 6D77 6E1A 6F22
  716E 722B 7422 7891 793E 7949 7948 7950 7956 795D -80C5 FA54:7A40 7A81 7BC0 7DF4 7E09 7E41
  7F72 8005 81ED 8279 8279 8457 8910 8996 8B01 8B39 8CD3 8D08 8FB6 9038 96E3 97FF 983B 6075
  242EE 8218 x FA70:4E26 51B5 5168 4F80 5145 5180 52C7 52FA 559D 5555 5599 55E2 585A 58B3 5944
  5954 5A62 5B28 5ED2 5ED9 5F69 5FAD 60D8 614E 6108 618E 6160 61F2 6234 63C4 641C 6452 6556 6674
  6717 671B 6756 6B79 6BBA 6D41 6EDB 6ECB 6F22 701E 716E 77A7 7235 72AF 732A 7471 7506 753B 761D
  761F 76CA 76DB 76F4 774A 7740 78CC 7AB1 7BC0 7C7B 7D5B 7DF4 7F3E 8005 8352 83EF 8779 8941 8986
  8996 8ABF 8AF8 8ACB 8B01 8AFE 8AED 8B39 8B8A 8D08 8F38 9072 9199 9276 967C 96E3 9756 97DB 97FF
  980B 983B 9B12 9F9C 2284A 22844 233D5 3B9D 4018 4039 25249 25CD0 27ED3 9F43 9F8E x FB00:66.66
  66.69 66.6C 66.66.69 66.66.6C 73.74 73.74 x FB13:574.576 574.565 574.56B 57E.576 574.56D x
  FB1D:5D9.5B4 k 5F2.5B7 5E2 5D0 -F54F FB24:-F549 FB27:5E8 5EA 2B 5E9.5C1 5E9.5C2 5E9.5BC.5C1
  5E9.5BC.5C2 5D0.5B7 5D0.5B8 5D0.5BC 5D1.5BC 5D2.5BC 5D3.5BC 5D4.5BC 5D5.5BC 5D6.5BC x 5D8.5BC
  5D9.5BC 5DA.5BC 5DB.5BC 5DC.5BC x 5DE.5BC x 5E0.5BC 5E1.5BC x 5E3.5BC 5E4.5BC x 5E6.5BC
  5E7.5BC 5E8.5BC 5E9.5BC 5EA.5BC 5D5.5B9 5D1.5BF 5DB.5BF 5E4.5BF 5D0.5DC 671 671 67B 67B 67B
  67B 67E 67E 67E 67E 680 680 680 680 67A 67A 67A 67A 67F 67F 67F 67F 679 679 679 679 6A4 6A4
  6A4 6A4 6A6 6A6 6A6 6A6 684 684 684 684 683 683 683 683 686 686 686 -F4F7 FB7F:687 687 687 68D
  68D 68C 68C 68E 68E 688 688 698 698 691 691 6A9 6A9 6A9 6A9 6AF 6AF 6AF 6AF 6B3 6B3 6B3 6B3
  6B1 6B1 6B1 6B1 6BA -F4E5 FBA1:6BB 6BB 6BB 6C0 -F4E5 FBA7:6C1 6C1 6C1 6BE 6BE 6BE 6BE 6D2
  -F4DD FBB1:6D3 k FBD3:6AD 6AD 6AD 6AD 6C7 6C7 6C6 6C6 6C8 6C8 6C7.674 6CB 6CB 6C5 6C5 6C9 6C9
  6D0 6D0 6D0 6D0 649 649 626.627 626.627 626.6D5 626.6D5 626.648 626.648 626.6C7 626.6C7
  626.6C6 626.6C6 626.6C8 626.6C8 626.6D0 626.6D0 626.6D0 626.649 626.649 626.649 6CC 6CC 6CC
  6CC 626.62C 626.62D 626.645 626.649 626.64A 628.62C 628.62D 628.62E 628.645 628.649 628.64A
  62A.62C 62A.62D 62A.62E 62A.645 62A.649 62A.64A 62B.62C 62B.645 62B.649 62B.64A 62C.62D
  62C.645 62D.62C 62D.645 62E.62C 62E.62D 62E.645 633.62C 633.62D 633.62E 633.645 635.62D
  635.645 636.62C 636.62D 636.62E 636.645 637.62D 637.645 638.645 639.62C 639.645 63A.62C
  63A.645 641.62C 641.62D 641.62E 641.645 641.649 641.64A 642.62D 642.645 642.649 642.64A
  643.627 643.62C 643.62D 643.62E 643.644 643.645 643.649 643.64A 644.62C 644.62D 644.62E
  644.645 644.649 644.64A 645.62C 645.62D 645.62E 645.645 645.649 645.64A 646.62C 646.62D
  646.62E 646.645 646.649 646.64A 647.62C 647.645 647.649 647.64A 64A.62C 64A.62D 64A.62E
  64A.645 64A.649 64A.64A 630.670 631.670 649.670 20.64C.651 20.64D.651 20.64E.651 20.64F.651
  20.650.651 20.651.670 626.631 626.632 626.645 626.646 626.649 626.64A 628.631 628.632 628.645
  628.646 628.649 628.64A 62A.631 62A.632 62A.645 62A.646 62A.649 62A.64A 62B.631 62B.632
  62B.645 62B.646 62B.649 62B.64A 641.649 641.64A 642.649 642.64A 643.627 643.644 643.645
  643.649 643.64A 644.645 644.649 644.64A 645.627 645.645 646.631 646.632 646.645 646.646
  646.649 646.64A 649.670 64A.631 64A.632 64A.645 64A.646 64A.649 64A.64A 626.62C 626.62D
  626.62E 626.645 626.647 628.62C 628.62D 628.62E 628.645 628.647 62A.62C 62A.62D 62A.62E
  62A.645 62A.647 62B.645 62C.62D 62C.645 62D.62C 62D.645 62E.62C 62E.645 633.62C 633.62D
  633.62E 633.645 635.62D 635.62E 635.645 636.62C 636.62D 636.62E 636.645 637.62D 638.645
  639.62C 639.645 63A.62C 63A.645 641.62C 641.62D 641.62E 641.645 642.62D 642.645 643.62C
  643.62D 643.62E 643.644 643.645 644.62C 644.62D 644.62E 644.645 644.647 645.62C 645.62D
  645.62E 645.645 646.62C 646.62D 646.62E 646.645 646.647 647.62C 647.645 647.670 64A.62C
  64A.62D 64A.62E 64A.645 64A.647 626.645 626.647 628.645 628.647 62A.645 62A.647 62B.645
  62B.647 633.645 633.647 634.645 634.647 643.644 643.645 644.645 646.645 646.647 64A.645
  64A.647 640.64E.651 640.64F.651 640.650.651 637.649 637.64A 639.649 639.64A 63A.649 63A.64A
  633.649 633.64A 634.649 634.64A 62D.649 62D.64A 62C.649 62C.64A 62E.649 62E.64A 635.649
  635.64A 636.649 636.64A 634.62C 634.62D 634.62E 634.645 634.631 633.631 635.631 636.631
  637.649 637.64A 639.649 639.64A 63A.649 63A.64A 633.649 633.64A 634.649 634.64A 62D.649
  62D.64A 62C.649 62C.64A 62E.649 62E.64A 635.649 635.64A 636.649 636.64A 634.62C 634.62D
  634.62E 634.645 634.631 633.631 635.631 636.631 634.62C 634.62D 634.62E 634.645 633.647
  634.647 637.645 633.62C 633.62D 633.62E 634.62C 634.62D 634.62E 637.645 638.645 627.64B
  627.64B k FD50:62A.62C.645 62A.62D.62C 62A.62D.62C 62A.62D.645 62A.62E.645 62A.645.62C
  62A.645.62D 62A.645.62E 62C.645.62D 62C.645.62D 62D.645.64A 62D.645.649 633.62D.62C
  633.62C.62D 633.62C.649 633.645.62D 633.645.62D 633.645.62C 633.645.645 633.645.645
  635.62D.62D 635.62D.62D 635.645.645 634.62D.645 634.62D.645 634.62C.64A 634.645.62E
  634.645.62E 634.645.645 634.645.645 636.62D.649 636.62E.645 636.62E.645 637.645.62D
  637.645.62D 637.645.645 637.645.64A 639.62C.645 639.645.645 639.645.645 639.645.649
  63A.645.645 63A.645.64A 63A.645.649 641.62E.645 641.62E.645 642.645.62D 642.645.645
  644.62D.645 644.62D.64A 644.62D.649 644.62C.62C 644.62C.62C 644.62E.645 644.62E.645
  644.645.62D 644.645.62D 645.62D.62C 645.62D.645 645.62D.64A 645.62C.62D 645.62C.645
  645.62E.62C 645.62E.645 k FD92:645.62C.62E 647.645.62C 647.645.645 646.62D.645 646.62D.649
  646.62C.645 646.62C.645 646.62C.649 646.645.64A 646.645.649 64A.645.645 64A.645.645
  628.62E.64A 62A.62C.64A 62A.62C.649 62A.62E.64A 62A.62E.649 62A.645.64A 62A.645.649
  62C.645.64A 62C.62D.649 62C.645.649 633.62E.649 635.62D.64A 634.62D.64A 636.62D.64A
  644.62C.64A 644.645.64A 64A.62D.64A 64A.62C.64A 64A.645.64A 645.645.64A 642.645.64A
  646.62D.64A 642.645.62D 644.62D.645 639.645.64A 643.645.64A 646.62C.62D 645.62E.64A
  644.62C.645 643.645.645 644.62C.645 646.62C.62D 62C.62D.64A 62D.62C.64A 645.62C.64A
  641.645.64A 628.62D.64A 643.645.645 639.62C.645 635.645.645 633.62E.64A 646.62C.64A k FDD0:x
  FDF0:635.644.6D2 642.644.6D2 627.644.644.647 627.643.628.631 645.62D.645.62F 635.644.639.645
  631.633.648.644 639.644.64A.647 648.633.644.645 635.644.649
  635.644.649.20.627.644.644.647.20.639.644.64A.647.20.648.633.644.645
  62C.644.20.62C.644.627.644.647 631.6CC.627.644 k FE00:d FE10:2C 3001 x -FDD9 FE15:21 3F -CE01
  FE19:x FE20:k FE30:x 2014 2013 5F 5F -FE0D FE37:7B 7D -CE25 FE3B:-CE2B FE3D:-CE33 FE3F:-CE37
  FE41:-CE35 FE45:k FE47:5B 5D 20.305 20.305 20.305 20.305 5F 5F 5F 2C 3001 x FE54:3B 3A 3F 21
  2014 -FE31 FE5B:7B 7D -CE49 FE5F:23 26 -FE37 FE63:2D 3C 3E 3D x 5C -FE45 FE6B:40 x FE70:20.64B
  640.64B 20.64C k 20.64D x 20.64E 640.64E 20.64F 640.64F 20.650 640.650 20.651 640.651 20.652
  640.652 -F85F FE82:-F860 FE84:-F861 FE86:-F862 FE88:-F863 FE8A:626 626 -F866 FE8E:-F867
  FE90:628 628 -F86A FE94:-F86B FE96:62A 62A -F86E FE9A:62B 62B -F871 FE9E:62C 62C -F874
  FEA2:62D 62D -F877 FEA6:62E 62E -F87A FEAA:-F87B FEAC:-F87C FEAE:-F87D FEB0:-F87E FEB2:633 633
  -F881 FEB6:634 634 -F884 FEBA:635 635 -F887 FEBE:636 636 -F88A FEC2:637 637 -F88D FEC6:638 638
  -F890 FECA:639 639 -F893 FECE:63A 63A 63A 641 641 641 -F893 FED6:642 642 -F896 FEDA:643 643
  -F899 FEDE:644 644 -F89C FEE2:645 645 -F89F FEE6:646 646 -F8A2 FEEA:647 647 -F8A5 FEEE:-F8A6
  FEF0:-F8A7 FEF2:64A 64A 64A 644.622 644.622 644.623 644.623 644.625 644.625 644.627 644.627 x
  FEFF:d x -FEE0 FF21:-FEC0 FF3B:-FEE0 FF5F:-D5DA FF61:2E -CF56 FF64:3001 30FB 30F2 30A1 30A3
  30A5 30A7 30A9 30E3 30E5 30E7 30C3 30FC 30A2 30A4 30A6 30A8 -CECB FF77:30AD 30AF 30B1 30B3
  30B5 30B7 30B9 30BB 30BD 30BF 30C1 30C4 30C6 30C8 -CEBB FF8B:30D2 30D5 30D8 30DB -CEB1
  FF94:30E4 30E6 -CEAE FF9C:30EF 30F3 -CF05 FFA0:d -EEA1 FFA3:11AA 1102 -EDF9 FFA7:-EEA4
  FFAA:-EDFA FFB0:111A -EEAB FFB4:1121 -EEAC FFBF:x FFC2:-EE61 FFC8:x FFCA:-EE63 FFD0:x
  FFD2:-EE65 FFD8:x FFDA:-EE67 FFDD:x FFE0:-FF3E FFE2:AC 20.304 A6 A5 20A9 x 2502 -DE59
  FFED:25A0 25CB x 10000:k 1000C:x k 10027:x k 1003B:x k 1003E:x k 1004E:x 10050:k 1005E:x
  10080:k 100FB:x 10100:k 10103:x 10107:k 10134:x 10137:k 1018F:x k 1019D:x 101A0:k x 101D0:k
  101FE:x 10280:k 1029D:x 102A0:k 102D1:x 102E0:k 102FC:x 10300:k 10324:x 1032D:k 1034B:x
  10350:k 1037B:x 10380:k 1039E:x k 103C4:x 103C8:k 103D6:x 10400:+28 10428:k 1049E:x 104A0:k
  104AA:x 104B0:+28 104D4:x 104D8:k 104FC:x 10500:k 10528:x 10530:k 10564:x 1056F:k +27 1057B:x
  +27 1058B:x +27 10593:x +27 10596:x k 105A2:x k 105B2:x k 105BA:x k 105BD:x 105C0:k 105F4:x
  10600:k 10737:x 10740:k 10756:x 10760:k 10768:x 10780:k -104B1 10783:E6 299 253 x 2A3 AB66 2A5
  2A4 -10535 1078D:1D91 258 25E 2A9 264 262 260 29B 127 29C 267 284 -104EF 1079B:26C 1DF04 A78E
  26E 1DF05 28E 1DF06 F8 -1052D 107A5:71 27A 1DF08 -1052B 107AA:280 2A8 2A6 AB67 2A7 288 2C71 x
  28F -10512 107B5:298 -105F6 107B9:1DF0A 1DF1E x 10800:k 10806:x 10808:k x k 10836:x k 10839:x
  1083C:k x 1083F:k 10856:x k 1089F:x 108A7:k 108B0:x 108E0:k 108F3:x k 108F6:x 108FB:k 1091C:x
  1091F:k 1093A:x 1093F:k 1095A:x 10980:k 109B8:x 109BC:k 109D0:x 109D2:k 10A04:x k 10A07:x
  10A0C:k 10A14:x k 10A18:x k 10A36:x 10A38:k 10A3B:x 10A3F:k 10A49:x 10A50:k 10A59:x 10A60:k
  10AA0:x 10AC0:k 10AE7:x 10AEB:k 10AF7:x 10B00:k 10B36:x 10B39:k 10B56:x 10B58:k 10B73:x
  10B78:k 10B92:x 10B99:k 10B9D:x 10BA9:k 10BB0:x 10C00:k 10C49:x 10C80:+40 10CB3:x 10CC0:k
  10CF3:x 10CFA:k 10D28:x 10D30:k 10D3A:x 10D40:k 10D50:+20 10D66:x 10D69:k 10D86:x 10D8E:k
  10D90:x 10E60:k 10E7F:x k 10EAA:x k 10EAE:x 10EB0:k 10EB2:x 10EC2:k 10EC8:x 10ED0:k 10ED9:x
  10EFA:k 10F28:x 10F30:k 10F5A:x 10F70:k 10F8A:x 10FB0:k 10FCC:x 10FE0:k 10FF7:x 11000:k
  1104E:x 11052:k 11076:x 1107F:k 110BD:x k 110C3:x 110D0:k 110E9:x 110F0:k 110FA:x 11100:k
  11135:x k 11148:x 11150:k 11177:x 11180:k 111E0:x k 111F5:x 11200:k 11212:x k 11242:x 11280:k
  11287:x k x k 1128E:x k 1129E:x k 112AA:x 112B0:k 112EB:x 112F0:k 112FA:x 11300:k 11304:x k
  1130D:x 1130F:k 11311:x 11313:k 11329:x k 11331:x k 11334:x k 1133A:x k 11345:x 11347:k
  11349:x 1134B:k 1134E:x 11350:k x 11357:k x 1135D:k 11364:x 11366:k 1136D:x 11370:k 11375:x
  11380:k 1138A:x k x 1138E:k x k 113B6:x k 113C1:x k x 113C5:k x k 113CB:x k 113D6:x k 113D9:x
  113E1:k 113E3:x 11400:k 1145C:x k 11462:x 11480:k 114C8:x 114D0:k 114DA:x 11580:k 115B6:x
  115B8:k 115DE:x 11600:k 11645:x 11650:k 1165A:x 11660:k 1166D:x 11680:k 116BA:x 116C0:k
  116CA:x 116D0:k 116E4:x 11700:k 1171B:x 1171D:k 1172C:x 11730:k 11747:x 11800:k 1183C:x
  118A0:+20 118C0:k 118F3:x 118FF:k 11907:x 11909:k x 1190C:k 11914:x k 11917:x k 11936:x k
  11939:x 1193B:k 11947:x 11950:k 1195A:x 119A0:k 119A8:x 119AA:k 119D8:x 119DA:k 119E5:x
  11A00:k 11A48:x 11A50:k 11AA3:x 11AB0:k 11AF9:x 11B00:k 11B0A:x 11B60:k 11B68:x 11BC0:k
  11BE2:x 11BF0:k 11BFA:x 11C00:k 11C09:x k 11C37:x k 11C46:x 11C50:k 11C6D:x 11C70:k 11C90:x
  11C92:k 11CA8:x k 11CB7:x 11D00:k 11D07:x k 11D0A:x k 11D37:x 11D3A:k x k 11D3E:x k 11D48:x
  11D50:k 11D5A:x 11D60:k 11D66:x k 11D69:x k 11D8F:x k 11D92:x k 11D99:x 11DA0:k 11DAA:x
  11DB0:k 11DDC:x 11DE0:k 11DEA:x 11EE0:k 11EF9:x 11F00:k 11F11:x k 11F3B:x 11F3E:k 11F5B:x
  11FB0:k x 11FC0:k 11FF2:x 11FFF:k 1239A:x 12400:k 1246F:x k 12475:x 12480:k 12544:x 12F90:k
  12FF3:x 13000:k 13430:x 13440:k 13456:x 13460:k 143FB:x 14400:k 14647:x 16100:k 1613A:x
  16800:k 16A39:x 16A40:k 16A5F:x k 16A6A:x 16A6E:k 16ABF:x k 16ACA:x 16AD0:k 16AEE:x 16AF0:k
  16AF6:x 16B00:k 16B46:x 16B50:k 16B5A:x k 16B62:x k 16B78:x 16B7D:k 16B90:x 16D40:k 16D7A:x
  16E40:+20 16E60:k 16E9B:x 16EA0:+1B 16EB9:x 16EBB:k 16ED4:x 16F00:k 16F4B:x 16F4F:k 16F88:x
  16F8F:k 16FA0:x 16FE0:k 16FE5:x 16FF0:k 16FF7:x 17000:k 18CD6:x 18CFF:k 18D1F:x 18D80:k
  18DF3:x 1AFF0:k 1AFF4:x k 1AFFC:x k 1AFFF:x k 1B123:x 1B132:k x 1B150:k 1B153:x 1B155:k x
  1B164:k 1B168:x 1B170:k 1B2FC:x 1BC00:k 1BC6B:x 1BC70:k 1BC7D:x 1BC80:k 1BC89:x 1BC90:k
  1BC9A:x 1BC9C:k 1BCA0:d 1BCA4:x 1CC00:k 1CCD6:-1CC75 1CCF0:-1CCC0 1CCFA:k 1CCFD:x 1CD00:k
  1CEB4:x 1CEBA:k 1CED1:x 1CEE0:k 1CEF1:x 1CF00:k 1CF2E:x 1CF30:k 1CF47:x 1CF50:k 1CFC4:x
  1D000:k 1D0F6:x 1D100:k 1D127:x 1D129:k 1D15E:1D157.1D165 1D158.1D165 1D158.1D165.1D16E
  1D158.1D165.1D16F 1D158.1D165.1D170 1D158.1D165.1D171 1D158.1D165.1D172 k 1D173:d 1D17B:k
  1D1BB:1D1B9.1D165 1D1BA.1D165 1D1B9.1D165.1D16E 1D1BA.1D165.1D16E 1D1B9.1D165.1D16F
  1D1BA.1D165.1D16F k 1D1EB:x 1D200:k 1D246:x 1D2C0:k 1D2D4:x 1D2E0:k 1D2F4:x 1D300:k 1D357:x
  1D360:k 1D379:x 1D400:-1D39F 1D41A:-1D3B9 1D434:-1D3D3 1D44E:-1D3ED 1D455:x -1D3ED
  1D468:-1D407 1D482:-1D421 1D49C:61 x -1D43B 1D4A0:x 1D4A2:67 x 1D4A5:-1D43B 1D4A7:x
  1D4A9:-1D43B 1D4AD:x -1D43B 1D4B6:-1D455 1D4BA:x 66 x -1D455 1D4C4:x -1D455 1D4D0:-1D46F
  1D4EA:-1D489 1D504:-1D4A3 1D506:x -1D4A3 1D50B:x 1D50D:-1D4A3 1D515:x -1D4A3 1D51D:x -1D4BD
  1D538:-1D4D7 1D53A:x -1D4D7 1D53F:x -1D4D7 1D545:x 6F x 1D54A:-1D4D7 1D551:x -1D4F1
  1D56C:-1D50B 1D586:-1D525 1D5A0:-1D53F 1D5BA:-1D559 1D5D4:-1D573 1D5EE:-1D58D 1D608:-1D5A7
  1D622:-1D5C1 1D63C:-1D5DB 1D656:-1D5F5 1D670:-1D60F 1D68A:-1D629 1D6A4:131 237 x 1D6A8:-1D2F7
  1D6B9:3B8 -1D2F7 1D6C1:2207 -1D311 1D6D3:3C3 -1D311 1D6DB:2202 3B5 3B8 3BA 3C6 3C1 3C0 -1D331
  1D6F3:3B8 -1D331 1D6FB:2207 -1D34B 1D70D:3C3 -1D34B 1D715:2202 3B5 3B8 3BA 3C6 3C1 3C0 -1D36B
  1D72D:3B8 -1D36B 1D735:2207 -1D385 1D747:3C3 -1D385 1D74F:2202 3B5 3B8 3BA 3C6 3C1 3C0 -1D3A5
  1D767:3B8 -1D3A5 1D76F:2207 -1D3BF 1D781:3C3 -1D3BF 1D789:2202 3B5 3B8 3BA 3C6 3C1 3C0 -1D3DF
  1D7A1:3B8 -1D3DF 1D7A9:2207 -1D3F9 1D7BB:3C3 -1D3F9 1D7C3:2202 3B5 3B8 3BA 3C6 3C1 3C0 3DD 3DD
  x 1D7CE:-1D79E 1D7D8:-1D7A8 1D7E2:-1D7B2 1D7EC:-1D7BC 1D7F6:-1D7C6 1D800:k 1DA8C:x 1DA9B:k
  1DAA0:x k 1DAB0:x 1DF00:k 1DF1F:x 1DF25:k 1DF2B:x 1E000:k 1E007:x k 1E019:x 1E01B:k 1E022:x k
  1E025:x k 1E02B:x 1E030:-1DC00 1E039:-1DBFF 1E03C:-1DBFE 1E047:44B -1DBFB 1E04A:A689 4D9 456
  458 4E9 4AF 4CF -1DC21 1E05A:-1DC20 1E05C:-1DC1E 1E05E:441 -1DC1C 1E065:-1DC1B 1E067:491 456
  455 45F 4AB A651 4B1 x 1E08F:k x 1E100:k 1E12D:x 1E130:k 1E13E:x 1E140:k 1E14A:x 1E14E:k
  1E150:x 1E290:k 1E2AF:x 1E2C0:k 1E2FA:x 1E2FF:k x 1E4D0:k 1E4FA:x 1E5D0:k 1E5FB:x 1E5FF:k x
  1E6C0:k 1E6DF:x k 1E6F6:x 1E6FE:k 1E700:x 1E7E0:k 1E7E7:x k 1E7EC:x k 1E7EF:x k 1E7FF:x k
  1E8C5:x 1E8C7:k 1E8D7:x 1E900:+22 1E922:k 1E94C:x 1E950:k 1E95A:x 1E95E:k 1E960:x 1EC71:k
  1ECB5:x 1ED01:k 1ED3E:x 1EE00:-1E7D9 1EE02:62C 62F x 648 632 62D 637 64A -1E7C7 1EE0E:633 639
  641 635 642 631 634 -1E7EB 1EE17:62E 630 636 638 63A 66E 6BA 6A1 66F x 628 62C x 647 x
  1EE27:62D x 64A -1E7E7 1EE2E:633 639 641 635 642 x 634 -1E80B 1EE37:62E x 636 x 63A x
  1EE42:62C x 1EE47:62D x 64A x 644 x 646 633 639 x 635 642 x 634 x 1EE57:62E x 636 x 63A x 6BA
  x 66F x 628 62C x 647 x 1EE67:62D 637 64A 643 x -1E827 1EE6E:633 639 641 635 642 x 634 -1E84B
  1EE77:62E x 636 638 63A 66E x 6A1 x -1E859 1EE82:62C 62F -1E83D 1EE86:632 62D 637 64A x -1E847
  1EE8E:633 639 641 635 642 631 634 -1E86B 1EE97:62E 630 636 638 63A x 1EEA1:628 62C 62F x 648
  632 62D 637 64A x -1E867 1EEAE:633 639 641 635 642 631 634 -1E88B 1EEB7:62E 630 636 638 63A x
  1EEF0:k 1EEF2:x 1F000:k 1F02C:x 1F030:k 1F094:x 1F0A0:k 1F0AF:x 1F0B1:k 1F0C0:x k 1F0D0:x k
  1F0F6:x 1F101:30.2C 31.2C 32.2C 33.2C 34.2C 35.2C 36.2C 37.2C 38.2C 39.2C k 1F110:28.61.29
  28.62.29 28.63.29 28.64.29 28.65.29 28.66.29 28.67.29 28.68.29 28.69.29 28.6A.29 28.6B.29
  28.6C.29 28.6D.29 28.6E.29 28.6F.29 28.70.29 28.71.29 28.72.29 28.73.29 28.74.29 28.75.29
  28.76.29 28.77.29 28.78.29 28.79.29 28.7A.29 3014.73.3015 63 72 63.64 77.7A k -1F0CF
  1F14A:68.76 6D.76 73.64 73.73 70.70.76 77.63 k 1F16A:6D.63 6D.64 6D.72 k 1F190:64.6A k 1F1AE:x
  1F1E6:k 1F200:307B.304B 30B3.30B3 30B5 x 1F210:624B 5B57 53CC 30C7 4E8C 591A 89E3 5929 4EA4
  6620 7121 6599 524D 5F8C 518D 65B0 521D 7D42 751F 8CA9 58F0 5439 6F14 6295 6355 4E00 4E09 904A
  5DE6 4E2D 53F3 6307 8D70 6253 7981 7A7A 5408 6E80 6709 6708 7533 5272 55B6 914D x
  1F240:3014.672C.3015 3014.4E09.3015 3014.4E8C.3015 3014.5B89.3015 3014.70B9.3015
  3014.6253.3015 3014.76D7.3015 3014.52DD.3015 3014.6557.3015 x 1F250:5F97 53EF x 1F260:k
  1F266:x 1F300:k 1F6D9:x 1F6DC:k 1F6ED:x 1F6F0:k 1F6FD:x 1F700:k 1F7DA:x 1F7E0:k 1F7EC:x
  1F7F0:k x 1F800:k 1F80C:x 1F810:k 1F848:x 1F850:k 1F85A:x 1F860:k 1F888:x 1F890:k 1F8AE:x
  1F8B0:k 1F8BC:x 1F8C0:k 1F8C2:x 1F8D0:k 1F8D9:x 1F900:k 1FA58:x 1FA60:k 1FA6E:x 1FA70:k
  1FA7D:x 1FA80:k 1FA8B:x 1FA8E:k 1FAC7:x k x 1FACD:k 1FADD:x 1FADF:k 1FAEB:x 1FAEF:k 1FAF9:x
  1FB00:k 1FB93:x k 1FBF0:-1FBC0 1FBFA:k x 20000:k 2A6E0:x 2A700:k 2B81E:x 2B820:k 2CEAE:x
  2CEB0:k 2EBE1:x 2EBF0:k 2EE5E:x 2F800:4E3D 4E38 4E41 20122 4F60 4FAE 4FBB 5002 507A 5099 50E7
  50CF 349E 2063A 514D 5154 5164 5177 2051C 34B9 5167 518D 2054B 5197 51A4 4ECC 51AC 51B5 291DF
  51F5 5203 34DF 523B 5246 5272 5277 3515 52C7 52C9 52E4 52FA -2A524 2F82B:5317 5349 5351 535A
  5373 537D 537F 537F 537F 20A2C 7070 53CA 53DF 20B63 53EB 53F1 5406 549E 5438 5448 5468 54A2
  54F6 5510 5553 5563 5584 5584 5599 55AB 55B3 55C2 5716 5606 5717 5651 5674 5207 58EE 57CE 57F4
  580D 578B 5832 5831 58AC 214E4 58F2 58F7 5906 591A 5922 5962 216A8 216EA 59EC 5A1B 5A27 59D8
  5A66 36EE 36FC 5B08 5B3E 5B3E 219C8 5BC3 5BD8 5BE7 5BF3 21B18 5BFF 5C06 5F53 5C22 3781 5C60
  5C6E 5CC0 5C8D 21DE4 5D43 21DE6 5D6E 5D6B 5D7C -29AA0 2F883:382F 5DFD 5E28 5E3D 5E69 3862
  22183 387C 5EB0 5EB3 5EB6 5ECA 2A392 5EFE 22331 22331 8201 5F22 5F22 38C7 232B8 261DA 5F62
  5F6B 38E3 5F9A 5FCD 5FD7 5FF9 6081 393A 391C 6094 226D4 60C7 6148 614C 614E 614C 617A 618E
  61B2 61A4 61AF 61DE 61F2 61F6 6210 621B 625D 62B1 62D4 6350 22B0C 633D 62FC 6368 6383 63E4
  22BF1 6422 63C5 63A9 3A2E 6469 647E 649D 6477 3A6C 654F 656C 2300A 65E3 66F8 6649 3B19 6691
  3B08 3AE4 5192 5195 6700 669C 80AD 43D9 6717 671B 6721 675E 6753 233C3 3B49 67FA 6785 6852
  6885 2346D 688E 681F 6914 3B9D 6942 69A3 69EA 6AA8 236A3 6ADB 3C18 6B21 238A7 6B54 3C4E 6B72
  6B9F -28D3B 2F8F7:23A8D 21D0B 23AFA 6C4E 23CBC 6CBF 6CCD 6C67 6D16 6D3E 6D77 6D41 6D69 6D78
  6D85 23D1E 6D34 6E2F 6E6E 3D33 6ECB 6EC7 23ED1 6DF9 6F6E 23F5E 23F8E 6FC6 7039 701E 701B 3D96
  704A 707D 7077 70AD 20525 7145 24263 719C 243AB 7228 7235 7250 24608 7280 7295 24735 24814
  737A 738B 3EAC 73A5 3EB8 3EB8 7447 745C 7471 7485 74CA 3F1B 7524 24C36 753E 24C92 7570 2219F
  7610 24FA1 24FB8 25044 3FFC 4008 76F4 250F3 250F2 25119 25133 -28227 2F947:771F 774A 4039 778B
  4046 4096 2541D 784E 788C 78CC 40E3 25626 7956 2569A 256C5 798F 79EB 412F 7A40 7A4A 7A4F 2597C
  25AA7 25AA7 7AEE 4202 25BAB 7BC6 7BC9 4227 25C80 7CD2 42A0 7CE8 7CE3 7D00 25F86 7D63 4301 7DC7
  7E02 7E45 4334 26228 26247 4359 262D9 7F7A 2633E 7F95 7FFA 8005 264DA 26523 8060 265A8 8070
  2335F 43D5 80B2 8103 440B 813E 5AB5 267A7 267B5 23393 2339C 8201 8204 8F9E 446B 8291 828B 829D
  52B3 82B1 82B3 82BD 82E6 26B3C 82E5 831D 8363 83AD 8323 83BD 83E7 8457 8353 83CA 83CC 83DC
  26C36 26D6B 26CD5 452B 84F1 84F3 8516 273CA 8564 26F2C 455D 4561 26FB1 270D2 456B 8650 865C
  8667 8669 86A9 8688 870E 86E2 8779 8728 876B 8786 45D7 87E1 8801 45F9 8860 8863 27667 88D7
  88DE 4635 88FA 34BB 278AE 27966 46BE 46C7 8AA0 8AED 8B8A 8C55 27CA8 8CAB 8CC1 8D1B 8D77 27F2F
  20804 8DCB 8DBC 8DF0 208DE 8ED4 8F38 285D2 285ED 9094 90F1 9111 2872E 911B 9238 -26711
  2F9EA:927C 93F9 9415 28BFA 958B 4995 95B7 28D77 49E6 96C3 5DB2 9723 29145 2921A 4A6E 4A76 97E0
  2940A 4AB2 29496 980B 980B 9829 295B6 98E2 4B33 9929 99A7 99C2 99FE 4BCE 29B30 9B12 9C40 9CFD
  4CCE 4CED 9D67 2A0CE 4CF8 2A105 2A20E 2A291 9EBB 4D56 9EF9 9EFE 9F05 9F0F 9F16 9F3B 2A600 x
  30000:k 3134B:x 31350:k 3347A:x E0100:d E01F0:x
"

/-- What folding does. -/
def table : Runs Folding := .read Folding.read tableText

end Folding

/-- What a character becomes, unless it has no place in a name. -/
def fold? (c : Char) : Option (List Char) :=
  if c.toNat < 0x80 then some [c.toLower]
  else (Folding.table.find? c.toNat).bind fun run => run.value.result? run.start c.toNat

end RpcPipeline.Unicode

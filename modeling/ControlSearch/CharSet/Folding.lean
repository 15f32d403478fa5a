import ControlSearch.CharSet

/-!
# Letters of either case

Simple case folding sends every character to a representative; two characters differ in case
only when they share it. A set folds to all characters that differ in case only from a member.
-/
namespace ControlSearch.CharSet

/-- A run of characters, `count` of them and `step` apart, whose representatives are as far
apart and begin at `target`. -/
structure FoldRun where
  first : Nat
  count : Nat
  step : Nat
  target : Nat

/-- Reads runs written in hexadecimal as `first:count:step:target`, or `first:target` for
one. -/
def FoldRun.list (table : String) : List FoldRun :=
  (Text.words table.toList).filterMap fun entry =>
    match (Text.splitAll ':' entry).map (Text.number? 16) with
    | [some first, some target] => some ⟨first, 1, 1, target⟩
    | [some first, some count, some step, some target] => some ⟨first, count, step, target⟩
    | _ => none

/-- The characters of a run, each with its representative. -/
def FoldRun.pairs (r : FoldRun) : List (Nat × Nat) :=
  (List.range r.count).map fun i => (r.first + i * r.step, r.target + i * r.step)

def foldRuns : List FoldRun := FoldRun.list
  "41:1A:1:61 B5:3BC C0:17:1:E0 D8:7:1:F8 100:18:2:101 132:3:2:133 139:8:2:13A 14A:17:2:14B
   178:FF 179:3:2:17A 17F:73 181:253 182:2:2:183 186:254 187:188 189:2:1:256 18B:18C 18E:1DD
   18F:259 190:25B 191:192 193:260 194:263 196:269 197:268 198:199 19C:26F 19D:272 19F:275
   1A0:3:2:1A1 1A6:280 1A7:1A8 1A9:283 1AC:1AD 1AE:288 1AF:1B0 1B1:2:1:28A 1B3:2:2:1B4 1B7:292
   1B8:1B9 1BC:1BD 1C4:1C6 1C5:1C6 1C7:1C9 1C8:1C9 1CA:1CC 1CB:9:2:1CC 1DE:9:2:1DF 1F1:1F3
   1F2:2:2:1F3 1F6:195 1F7:1BF 1F8:14:2:1F9 220:19E 222:9:2:223 23A:2C65 23B:23C 23D:19A
   23E:2C66 241:242 243:180 244:289 245:28C 246:5:2:247 345:3B9 370:2:2:371 376:377 37F:3F3
   386:3AC 388:3:1:3AD 38C:3CC 38E:2:1:3CD 391:11:1:3B1 3A3:9:1:3C3 3C2:3C3 3CF:3D7 3D0:3B2
   3D1:3B8 3D5:3C6 3D6:3C0 3D8:C:2:3D9 3F0:3BA 3F1:3C1 3F4:3B8 3F5:3B5 3F7:3F8 3F9:3F2 3FA:3FB
   3FD:3:1:37B 400:10:1:450 410:20:1:430 460:11:2:461 48A:1B:2:48B 4C0:4CF 4C1:7:2:4C2
   4D0:30:2:4D1 531:26:1:561 10A0:26:1:2D00 10C7:2D27 10CD:2D2D 13F8:6:1:13F0 1C80:432
   1C81:434 1C82:43E 1C83:2:1:441 1C85:442 1C86:44A 1C87:463 1C88:A64B 1C90:2B:1:10D0
   1CBD:3:1:10FD 1E00:4B:2:1E01 1E9B:1E61 1E9E:DF 1EA0:30:2:1EA1 1F08:8:1:1F00 1F18:6:1:1F10
   1F28:8:1:1F20 1F38:8:1:1F30 1F48:6:1:1F40 1F59:4:2:1F51 1F68:8:1:1F60 1F88:8:1:1F80
   1F98:8:1:1F90 1FA8:8:1:1FA0 1FB8:2:1:1FB0 1FBA:2:1:1F70 1FBC:1FB3 1FBE:3B9 1FC8:4:1:1F72
   1FCC:1FC3 1FD8:2:1:1FD0 1FDA:2:1:1F76 1FE8:2:1:1FE0 1FEA:2:1:1F7A 1FEC:1FE5 1FF8:2:1:1F78
   1FFA:2:1:1F7C 1FFC:1FF3 2126:3C9 212A:6B 212B:E5 2132:214E 2160:10:1:2170 2183:2184
   24B6:1A:1:24D0 2C00:30:1:2C30 2C60:2C61 2C62:26B 2C63:1D7D 2C64:27D 2C67:3:2:2C68 2C6D:251
   2C6E:271 2C6F:250 2C70:252 2C72:2C73 2C75:2C76 2C7E:2:1:23F 2C80:32:2:2C81 2CEB:2:2:2CEC
   2CF2:2CF3 A640:17:2:A641 A680:E:2:A681 A722:7:2:A723 A732:1F:2:A733 A779:2:2:A77A A77D:1D79
   A77E:5:2:A77F A78B:A78C A78D:265 A790:2:2:A791 A796:A:2:A797 A7AA:266 A7AB:25C A7AC:261
   A7AD:26C A7AE:26A A7B0:29E A7B1:287 A7B2:29D A7B3:AB53 A7B4:8:2:A7B5 A7C4:A794 A7C5:282
   A7C6:1D8E A7C7:2:2:A7C8 A7D0:A7D1 A7D6:2:2:A7D7 A7F5:A7F6 AB70:50:1:13A0 FF21:1A:1:FF41
   10400:28:1:10428 104B0:24:1:104D8 10570:B:1:10597 1057C:F:1:105A3 1058C:7:1:105B3
   10594:2:1:105BB 10C80:33:1:10CC0 118A0:20:1:118C0 16E40:20:1:16E60 1E900:22:1:1E922"

/-- The characters that are not their own representatives, each with its representative. -/
def foldPairs : List (Nat × Nat) := foldRuns.flatMap FoldRun.pairs

/-- Adds the representatives of the members, and all that a member represents. -/
def foldStep (pairs : List (Nat × Nat)) (s : CharSet) : CharSet :=
  let has (n : Nat) := s.intervals.any (·.contains n)
  ofIntervals (s.intervals ++ pairs.flatMap fun (n, rep) =>
    (if has n then [⟨rep, rep⟩] else []) ++ (if has rep then [⟨n, n⟩] else []))

/-- All characters that differ from a member in case only. -/
def fold (s : CharSet) : CharSet := foldStep foldPairs (foldStep foldPairs s)

/-- The same for the letters of ASCII alone. -/
def foldAscii (s : CharSet) : CharSet :=
  foldStep ((List.range 26).map fun i => (0x41 + i, 0x61 + i)) s

end ControlSearch.CharSet

import WorkflowEngine.Text.Category

/-!
# Case

Letters that differ only in case fold to the same one. Foldings are simple, from one character to one
character, by version 15.0 of the Unicode character database.

* `foldings`: how far which characters are from what they fold to;
* `simpleFold`: what a character folds to;
* `caseVariants`: the characters that fold to the same.
-/

namespace WorkflowEngine.Text

/-- **What folds to another character**, by the distance to it. -/
def foldings : List (Int × List Span) := [
  (32, "41-5A C0-D6 D8-DE 391-3A1 3A3-3AB 410-42F FF21-FF3A 118A0-118BF 16E40-16E5F"),
  (775, "B5"),
  (1, "100-12E/2 132-136/2 139-147/2 14A-176/2 179-17D/2 182 184 187 18B 191 198 1A0-1A4/2 1A7 1AC
    1AF 1B3 1B5 1B8 1BC 1C5-1CB/3 1CD-1DB/2 1DE-1EE/2 1F2 1F4 1F8-21E/2 222-232/2 23B 241
    246-24E/2 370 372 376 3C2 3D8-3EE/2 3F7 3FA 460-480/2 48A-4BE/2 4C1-4CD/2 4D0-52E/2
    1E00-1E94/2 1EA0-1EFE/2 2183 2C60 2C67-2C6B/2 2C72 2C75 2C80-2CE2/2 2CEB 2CED 2CF2 A640-A66C/2
    A680-A69A/2 A722-A72E/2 A732-A76E/2 A779 A77B A77E-A786/2 A78B A790 A792 A796-A7A8/2
    A7B4-A7C2/2 A7C7 A7C9 A7D0 A7D6 A7D8 A7F5"),
  (-121, "178"), (-268, "17F"), (210, "181"), (206, "186"), (205, "189-18A 193"), (79, "18E"),
  (202, "18F"), (203, "190"), (207, "194"), (211, "196 19C"), (209, "197"), (213, "19D"),
  (214, "19F"), (218, "1A6 1A9 1AE"), (217, "1B1-1B2"), (219, "1B7"), (2, "1C4-1CA/3 1F1"),
  (-97, "1F6"), (-56, "1F7"), (-130, "220 3FD-3FF"), (10795, "23A"), (-163, "23D"),
  (10792, "23E"), (-195, "243"), (69, "244"), (71, "245"), (116, "345 37F"), (38, "386"),
  (37, "388-38A"), (64, "38C 10C80-10CB2"), (63, "38E-38F"), (8, "3CF"), (-30, "3D0"),
  (-25, "3D1"), (-15, "3D5"), (-22, "3D6"), (-54, "3F0"), (-48, "3F1 A7C4"), (-60, "3F4"),
  (-64, "3F5"), (-7, "3F9 1FEC"), (80, "400-40F"), (15, "4C0"), (48, "531-556 2C00-2C2F"),
  (7264, "10A0-10C5 10C7 10CD"),
  (-8, "13F8-13FD 1F08-1F0F 1F18-1F1D 1F28-1F2F 1F38-1F3F 1F48-1F4D 1F59-1F5F/2 1F68-1F6F
    1F88-1F8F 1F98-1F9F 1FA8-1FAF 1FB8-1FB9 1FD8-1FD9 1FE8-1FE9"),
  (-6222, "1C80"), (-6221, "1C81"), (-6212, "1C82"), (-6210, "1C83-1C84"), (-6211, "1C85"),
  (-6204, "1C86"), (-6180, "1C87"), (35267, "1C88"), (-3008, "1C90-1CBA 1CBD-1CBF"),
  (-58, "1E9B"), (-7615, "1E9E"), (-74, "1FBA-1FBB"), (-9, "1FBC 1FCC 1FFC"), (-7173, "1FBE"),
  (-86, "1FC8-1FCB"), (-100, "1FDA-1FDB"), (-112, "1FEA-1FEB"), (-128, "1FF8-1FF9"),
  (-126, "1FFA-1FFB"), (-7517, "2126"), (-8383, "212A"), (-8262, "212B"), (28, "2132"),
  (16, "2160-216F"), (26, "24B6-24CF"), (-10743, "2C62"), (-3814, "2C63"), (-10727, "2C64"),
  (-10780, "2C6D"), (-10749, "2C6E"), (-10783, "2C6F"), (-10782, "2C70"), (-10815, "2C7E-2C7F"),
  (-35332, "A77D"), (-42280, "A78D"), (-42308, "A7AA A7AE"), (-42319, "A7AB"), (-42315, "A7AC"),
  (-42305, "A7AD"), (-42258, "A7B0"), (-42282, "A7B1"), (-42261, "A7B2"), (928, "A7B3"),
  (-42307, "A7C5"), (-35384, "A7C6"), (-38864, "AB70-ABBF"), (40, "10400-10427 104B0-104D3"),
  (39, "10570-1057A 1057C-1058A 1058C-10592 10594-10595"), (34, "1E900-1E921")].map fun (distance, text) => (distance, readSpans text)

/-- The code point that another one folds to. -/
def simpleFold (n : Nat) : Nat :=
  match foldings.find? fun entry => entry.2.any (·.contains n) with
  | some (distance, _) => (n + distance).toNat
  | none => n

/-- **The characters that fold to the same** as a character. -/
def caseVariants (c : Char) : List Char :=
  let folded := simpleFold c.toNat
  let others := foldings.filterMap fun (distance, spans) =>
    let n := (folded - distance : Int).toNat
    if spans.any (·.contains n) then some (Char.ofNat n) else none
  Char.ofNat folded :: others

end WorkflowEngine.Text

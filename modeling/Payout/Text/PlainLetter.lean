/-!
# Plain letters

Many characters are a lower-case ASCII letter in another style, or a few of them joined: circled,
full-width and mathematical letters, ligatures, small roman numerals. Compatibility decomposition
takes them apart into plain letters. The tables list the word characters that it takes apart into plain
lower-case letters and nothing else.
-/
namespace Payout.Text

/-- Runs of consecutive code points that each stand for one letter. -/
def styledRuns : List (Nat × String) :=
  [(0xaa, "a"), (0xba, "o"),
    (0x17f, "s"), (0x2b0, "h"),
    (0x2b2, "jr"), (0x2b7, "wy"),
    (0x2e1, "lsx"), (0x1d43, "a"),
    (0x1d47, "bde"), (0x1d4d, "g"),
    (0x1d4f, "km"), (0x1d52, "o"),
    (0x1d56, "ptu"), (0x1d5b, "v"),
    (0x1d62, "iruv"), (0x1d9c, "c"),
    (0x1da0, "f"), (0x1dbb, "z"),
    (0x2071, "i"), (0x207f, "n"),
    (0x2090, "aeox"), (0x2095, "hklmnpst"),
    (0x210a, "g"), (0x210e, "h"),
    (0x2113, "l"), (0x212f, "e"),
    (0x2134, "o"), (0x2139, "i"),
    (0x2146, "deij"), (0x2170, "i"),
    (0x2174, "v"), (0x2179, "x"),
    (0x217c, "lcdm"), (0x24d0, "abcdefghijklmnopqrstuvwxyz"),
    (0x2c7c, "j"), (0xff41, "abcdefghijklmnopqrstuvwxyz"),
    (0x107a5, "q"), (0x1d41a, "abcdefghijklmnopqrstuvwxyz"),
    (0x1d44e, "abcdefg"), (0x1d456, "ijklmnopqrstuvwxyz"),
    (0x1d482, "abcdefghijklmnopqrstuvwxyz"), (0x1d4b6, "abcd"),
    (0x1d4bb, "f"), (0x1d4bd, "hijklmn"),
    (0x1d4c5, "pqrstuvwxyz"), (0x1d4ea, "abcdefghijklmnopqrstuvwxyz"),
    (0x1d51e, "abcdefghijklmnopqrstuvwxyz"), (0x1d552, "abcdefghijklmnopqrstuvwxyz"),
    (0x1d586, "abcdefghijklmnopqrstuvwxyz"), (0x1d5ba, "abcdefghijklmnopqrstuvwxyz"),
    (0x1d5ee, "abcdefghijklmnopqrstuvwxyz"), (0x1d622, "abcdefghijklmnopqrstuvwxyz"),
    (0x1d656, "abcdefghijklmnopqrstuvwxyz"), (0x1d68a, "abcdefghijklmnopqrstuvwxyz")]

/-- Characters that stand for several letters. -/
def joinedLetters : List (Nat × String) :=
  [(0x133, "ij"), (0x1c9, "lj"), (0x1cc, "nj"), (0x1f3, "dz"), (0x2171, "ii"),
    (0x2172, "iii"), (0x2173, "iv"), (0x2175, "vi"), (0x2176, "vii"), (0x2177, "viii"),
    (0x2178, "ix"), (0x217a, "xi"), (0x217b, "xii"), (0xfb00, "ff"), (0xfb01, "fi"),
    (0xfb02, "fl"), (0xfb03, "ffi"), (0xfb04, "ffl"), (0xfb05, "st"), (0xfb06, "st")]

/-- The plain letters a character stands for; any other character stands for itself. -/
def plainLetters (c : Char) : List Char :=
  if c.toNat < 128 then [c]
  else
    match joinedLetters.lookup c.toNat with
    | some letters => letters.toList
    | none =>
      match styledRuns.find? fun r => r.1 ≤ c.toNat && c.toNat < r.1 + r.2.length with
      | some run => (run.2.toList.drop (c.toNat - run.1)).take 1
      | none => [c]

end Payout.Text

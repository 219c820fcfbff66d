import TextCursor.Unicode.Folding
import TextCursor.Unicode.Letter

/-! # Changes of case

    The characters that a text loses when it is written in small letters, in
    capitals or as a title, or when its case is folded.  Most follow from simple
    folding; the others become several letters at once. -/

namespace TextCursor.Unicode

/-- The characters that simple folding changes. -/
def folded : CharSet :=
  CharSet.ofRanges (foldRuns.flatMap fun r => r.between 0 CharSet.greatest)

/-- The characters that simple folding changes or leads to. -/
def varying : CharSet :=
  withImages folded

/-- The characters that folding changes. -/
def changesWhenFolded : CharSet :=
  (folded.diff (CharSet.range 0x1FBE 0x1FBE)).union (CharSet.ofRanges
    [(0xDF, 0xDF), (0x130, 0x130), (0x149, 0x149), (0x587, 0x587), (0x1E9A, 0x1E9A),
     (0x1F80, 0x1F87), (0x1F90, 0x1F97), (0x1FA0, 0x1FA7), (0x1FB2, 0x1FB4), (0x1FB7, 0x1FB7),
     (0x1FC2, 0x1FC4), (0x1FC7, 0x1FC7), (0x1FF2, 0x1FF4), (0x1FF7, 0x1FF7), (0xFB00, 0xFB06),
     (0xFB13, 0xFB17)])

/-- The characters that small letters replace. -/
def changesWhenLowered : CharSet :=
  (folded.inter (uppercase.union (Category.members .titleLetter))).union
    (CharSet.ofRanges [(0x130, 0x130), (0x13A0, 0x13F5)])

/-- The characters that capital letters replace. -/
def changesWhenRaised : CharSet :=
  (varying.diff uppercase).union (CharSet.ofRanges
    [(0x131, 0x131), (0x149, 0x149), (0x1F0, 0x1F0), (0x390, 0x390), (0x3B0, 0x3B0),
     (0x587, 0x587), (0x1E96, 0x1E9A), (0x1F50, 0x1F50), (0x1F52, 0x1F52), (0x1F54, 0x1F54),
     (0x1F56, 0x1F56), (0x1FB2, 0x1FB2), (0x1FB4, 0x1FB4), (0x1FB6, 0x1FB7), (0x1FC2, 0x1FC2),
     (0x1FC4, 0x1FC4), (0x1FC6, 0x1FC7), (0x1FD2, 0x1FD3), (0x1FD6, 0x1FD7), (0x1FE2, 0x1FE4),
     (0x1FE6, 0x1FE7), (0x1FF2, 0x1FF2), (0x1FF4, 0x1FF4), (0x1FF6, 0x1FF7), (0xFB00, 0xFB06),
     (0xFB13, 0xFB17)])

/-- The characters that another one replaces at the beginning of a title. -/
def changesWhenTitled : CharSet :=
  (changesWhenRaised.diff (CharSet.ofRanges
    [(0x1C5, 0x1C5), (0x1C8, 0x1C8), (0x1CB, 0x1CB), (0x1F2, 0x1F2), (0x10D0, 0x10FA),
     (0x10FD, 0x10FF), (0x1F88, 0x1F8F), (0x1F98, 0x1F9F), (0x1FA8, 0x1FAF), (0x1FBC, 0x1FBC),
     (0x1FCC, 0x1FCC), (0x1FFC, 0x1FFC)])).union
    (CharSet.ofRanges [(0x1C4, 0x1C4), (0x1C7, 0x1C7), (0x1CA, 0x1CA), (0x1F1, 0x1F1)])

/-- The characters that any change of case replaces. -/
def changesWhenMapped : CharSet :=
  CharSet.unions [changesWhenLowered, changesWhenRaised, changesWhenTitled]

end TextCursor.Unicode

import Hyperlink.Text.Ranges

/-!
# Hyperlink.Unicode.Bidi — directions of characters

The class that the property Bidi_Class gives to a character. A row ends in `=` and a letter for the class; characters
outside the table run from left to right.
-/

namespace Hyperlink.Unicode

/-- The classes of the characters of domain names that do not run from left to right. -/
def bidiTable : Text.CodeTable := .ofLines
  ["0-8=B 9-d=W e-1b=B 1c-20=W 21-22=O 23-25=T 26-2a=O 2b=S 2c=C 2d=S 2e-2f=C 30-39=E 3a=C 3b-60=O 7b-7e=O 7f=B a1=O",
   "a2-a5=T a6-ae=O b0-b1=T b6-d7=O f7=O 2b9-2ba=O 2c2-2cf=O 2d2-2ed=O 2ef-2ff=O 300-36f=N 375=O 3f6=O 483-489=N",
   "58a-58e=O 58f=T 591-5bd=N 5be=R 5bf=N 5c0=R 5c1-5c2=N 5c3=R 5c4-5c5=N 5c6=R 5c7=N 5d0-5f4=R 606-607=O 608=A",
   "609-60a=T 60b=A 60c=C 60d=A 60e-60f=O 610-61a=N 61b-64a=A 64b-65f=N 660-669=D 66a=T 66b-66c=D 66d-66f=A 670=N",
   "671-6d5=A 6d6-6dc=N 6de=O 6df-6e4=N 6e5-6e6=A 6e7-6e8=N 6e9=O 6ea-6ed=N 6ee-6ef=A 6f0-6f9=E 6fa-710=A 711=N",
   "712-72f=A 730-74a=N 74d-7a5=A 7a6-7b0=N 7b1=A 7c0-7ea=R 7eb-7f3=N 7f4-7f5=R 7f6-7f9=O 7fa=R 7fd=N 7fe-815=R",
   "816-819=N 81a=R 81b-823=N 824=R 825-827=N 828=R 829-82d=N 830-858=R 859-85b=N 85e=R 860-897=A 898-89f=N",
   "8a0-8c9=A 8ca-902=N 93a=N 93c=N 941-948=N 94d=N 951-957=N 962-963=N 981=N 9bc=N 9c1-9c4=N 9cd=N 9e2-9e3=N",
   "9f2-9f3=T 9fb=T 9fe-a02=N a3c=N a41-a51=N a70-a71=N a75=N a81-a82=N abc=N ac1-ac8=N acd=N ae2-ae3=N af1=T",
   "afa-b01=N b3c=N b3f=N b41-b44=N b4d-b56=N b62-b63=N b82=N bc0=N bcd=N bf3-bf8=O bf9=T bfa=O c00=N c04=N c3c=N",
   "c3e-c40=N c46-c56=N c62-c63=N c78-c7e=O c81=N cbc=N ccc-ccd=N ce2-ce3=N d00-d01=N d3b-d3c=N d41-d44=N d4d=N",
   "d62-d63=N d81=N dca=N dd2-dd6=N e31=N e34-e3a=N e3f=T e47-e4e=N eb1=N eb4-ebc=N ec8-ece=N f18-f19=N f35=N f37=N",
   "f39=N f3a-f3d=O f71-f7e=N f80-f84=N f86-f87=N f8d-fbc=N fc6=N 102d-1030=N 1032-1037=N 1039-103a=N 103d-103e=N",
   "1058-1059=N 105e-1060=N 1071-1074=N 1082=N 1085-1086=N 108d=N 109d=N 135d-135f=N 1390-1399=O 1400=O 169b-169c=O",
   "1712-1714=N 1732-1733=N 1752-1753=N 1772-1773=N 17b7-17bd=N 17c6=N 17c9-17d3=N 17db=T 17dd=N 17f0-180a=O",
   "1885-1886=N 18a9=N 1920-1922=N 1927-1928=N 1932=N 1939-193b=N 1940-1945=O 19de-19ff=O 1a17-1a18=N 1a1b=N 1a56=N",
   "1a58-1a60=N 1a62=N 1a65-1a6c=N 1a73-1a7f=N 1ab0-1ace=N 1b00-1b03=N 1b34=N 1b36-1b3a=N 1b3c=N 1b42=N 1b6b-1b73=N",
   "1b80-1b81=N 1ba2-1ba5=N 1ba8-1ba9=N 1bab-1bad=N 1be6=N 1be8-1be9=N 1bed=N 1bef-1bf1=N 1c2c-1c33=N 1c36-1c37=N",
   "1cd0-1cd2=N 1cd4-1ce0=N 1ce2-1ce8=N 1ced=N 1cf4=N 1cf8-1cf9=N 1dc0-1dff=N 200c-200d=B 2010-2027=O 2030-2032=T",
   "2035-2043=O 2044=C 2045-205e=O 20a0-20c1=T 20d0-20f0=N 2104-2129=O 212e=T 213a-214d=O 218a-2211=O 2212=S 2213=T",
   "2214-2335=O 237b-2394=O 2396-2426=O 2440-26ab=O 26ad-27ff=O 2900-2b95=O 2b97-2bff=O 2ce5-2cea=O 2cef-2cf1=N",
   "2cf9-2cff=O 2d7f=N 2de0-2dff=N 2e00-3004=O 3008-3020=O 302a-302d=N 3030=O 3037=O 303d-303f=O 3099-309a=N 30a0=O",
   "30fb=O 31c0-31e3=O 4dc0-4dff=O a490-a4c6=O a60d-a60f=O a66f-a672=N a673=O a674-a67d=N a67e-a67f=O a69e-a69f=N",
   "a6f0-a6f1=N a700-a721=O a788=O a802=N a806=N a80b=N a825-a826=N a828-a82b=O a82c=N a838-a839=T a874-a877=O",
   "a8c4-a8c5=N a8e0-a8f1=N a8ff=N a926-a92d=N a947-a951=N a980-a982=N a9b3=N a9b6-a9b9=N a9bc-a9bd=N a9e5=N",
   "aa29-aa2e=N aa31-aa32=N aa35-aa36=N aa43=N aa4c=N aa7c=N aab0=N aab2-aab4=N aab7-aab8=N aabe-aabf=N aac1=N",
   "aaec-aaed=N aaf6=N ab6a-ab6b=O abe5=N abe8=N abed=N fb1e=N fbb2-fbd2=A fd3e-fd4f=O fd90-fdce=A fdcf-fdff=O",
   "fe20-fe2f=N fe45-fe46=O fe73=A 10101=O 10140-1018c=O 10190-101a0=O 101fd=N 102e0=N 102e1-102fb=E 10376-1037a=N",
   "10800-1091b=R 1091f=O 10920-10a00=R 10a01-10a0f=N 10a10-10a35=R 10a38-10a3f=N 10a40-10ae4=R 10ae5-10ae6=N",
   "10aeb-10b35=R 10b39-10b3f=O 10b40-10cff=R 10d00-10d23=A 10d24-10d27=N 10d30-10d39=D 10d40-10d8f=R 10e60-10e7e=D",
   "10e80-10ea9=R 10eab-10eac=N 10ead-10eb1=R 10ec2-10efc=A 10efd-10eff=N 10f00-10f27=R 10f30-10f45=A 10f46-10f50=N",
   "10f51-10f59=A 10f70-10f81=R 10f82-10f85=N 10f86-10ff6=R 11001=N 11038-11046=N 11052-11065=O 11070=N",
   "11073-11074=N 1107f-11081=N 110b3-110b6=N 110b9-110ba=N 110c2=N 11100-11102=N 11127-1112b=N 1112d-11134=N",
   "11173=N 11180-11181=N 111b6-111be=N 111c9-111cc=N 111cf=N 1122f-11231=N 11234=N 11236-11237=N 1123e=N 11241=N",
   "112df=N 112e3-112ea=N 11300-11301=N 1133b-1133c=N 11340=N 11366-11374=N 11438-1143f=N 11442-11444=N 11446=N",
   "1145e=N 114b3-114b8=N 114ba=N 114bf-114c0=N 114c2-114c3=N 115b2-115b5=N 115bc-115bd=N 115bf-115c0=N",
   "115dc-115dd=N 11633-1163a=N 1163d=N 1163f-11640=N 11660-1166c=O 116ab=N 116ad=N 116b0-116b5=N 116b7=N",
   "1171d-1171f=N 11722-11725=N 11727-1172b=N 1182f-11837=N 11839-1183a=N 1193b-1193c=N 1193e=N 11943=N",
   "119d4-119db=N 119e0=N 11a01-11a06=N 11a09-11a0a=N 11a33-11a38=N 11a3b-11a3e=N 11a47=N 11a51-11a56=N",
   "11a59-11a5b=N 11a8a-11a96=N 11a98-11a99=N 11c30-11c3d=N 11c92-11ca7=N 11caa-11cb0=N 11cb2-11cb3=N 11cb5-11cb6=N",
   "11d31-11d45=N 11d47=N 11d90-11d91=N 11d95=N 11d97=N 11ef3-11ef4=N 11f00-11f01=N 11f36-11f3a=N 11f40=N 11f42=N",
   "11fd5-11fdc=O 11fdd-11fe0=T 11fe1-11ff1=O 13440=N 13447-13455=N 16af0-16af4=N 16b30-16b36=N 16f4f=N",
   "16f8f-16f92=N 16fe2=O 16fe4=N 1bc9d-1bc9e=N 1cf00-1cf46=N 1d167-1d169=N 1d17b-1d182=N 1d185-1d18b=N",
   "1d1aa-1d1ad=N 1d1e9-1d241=O 1d242-1d244=N 1d245=O 1d300-1d356=O 1da00-1da36=N 1da3b-1da6c=N 1da75=N 1da84=N",
   "1da9b-1daaf=N 1e000-1e08f=N 1e130-1e136=N 1e2ae=N 1e2ec-1e2ef=N 1e2ff=T 1e4ec-1e4ef=N 1e800-1e8cf=R",
   "1e8d0-1e8d6=N 1e922-1e943=R 1e944-1e94a=N 1e94b-1e95f=R 1ec71-1ed3d=A 1eef0-1f12f=O 1f16d-1f16f=O 1f1ad=O",
   "1f260-1f6d7=O 1f6dc-1f776=O 1f77b-1f8b1=O 1f900-1fa53=O 1fa60-1fa88=O 1fa90-1fabd=O 1fabf-1fac5=O 1face-1fadb=O",
   "1fae0-1fae8=O 1faf0-1fbca=O"]

/-- The classes of characters by direction, as far as domain names tell them apart. -/
inductive BidiClass
  | leftToRight
  | rightToLeft
  | arabicLetter
  | arabicNumber
  | europeanNumber
  | europeanSeparator
  | commonSeparator
  | europeanTerminator
  | otherNeutral
  | boundaryNeutral
  | nonspacingMark
  | whiteSpace
  deriving DecidableEq, Repr

/-- The class that the value of a row names. -/
def BidiClass.ofValue : List Char → BidiClass
  | ['=', 'R'] => .rightToLeft
  | ['=', 'A'] => .arabicLetter
  | ['=', 'D'] => .arabicNumber
  | ['=', 'E'] => .europeanNumber
  | ['=', 'S'] => .europeanSeparator
  | ['=', 'C'] => .commonSeparator
  | ['=', 'T'] => .europeanTerminator
  | ['=', 'O'] => .otherNeutral
  | ['=', 'B'] => .boundaryNeutral
  | ['=', 'N'] => .nonspacingMark
  | ['=', 'W'] => .whiteSpace
  | _ => .leftToRight

/-- The class of a character. -/
def bidiClass (c : Char) : BidiClass :=
  ((bidiTable.find? c).map fun row => BidiClass.ofValue row.value).getD .leftToRight

end Hyperlink.Unicode

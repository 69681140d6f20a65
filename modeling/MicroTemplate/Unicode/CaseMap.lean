import MicroTemplate.Unicode.CaseRuns

/-!
# Case mappings

The mappings between cases of version 16.0 of the standard: for the characters beyond the first
128, which single character is the upper or lower case of another and which capitals take more
than one character; for all characters, which ones differ in case alone.
-/

namespace MicroTemplate.Unicode

/-- Lowercase to uppercase, one character to one. -/
def upperRuns : CaseRuns := .read [
    "00B5+2E7 00E0~00F6-20 00F8~00FE-20 00FF+79 0101/012F-1 0131-E8 0133/0137-1 013A/0148-1",
    "014B/0177-1 017A/017E-1 017F-12C 0180+C3 0183/0185-1 0188-1 018C-1 0192-1 0195+61 0199-1",
    "019A+A3 019B+A641 019E+82 01A1/01A5-1 01A8-1 01AD-1 01B0-1 01B4/01B6-1 01B9-1 01BD-1",
    "01BF+38 01C5-1 01C6-2 01C8-1 01C9-2 01CB-1 01CC-2 01CE/01DC-1 01DD-4F 01DF/01EF-1 01F2-1",
    "01F3-2 01F5-1 01F9/021F-1 0223/0233-1 023C-1 023F~0240+2A3F 0242-1 0247/024F-1 0250+2A1F",
    "0251+2A1C 0252+2A1E 0253-D2 0254-CE 0256~0257-CD 0259-CA 025B-CB 025C+A54F 0260-CD",
    "0261+A54B 0263-CF 0264+A567 0265+A528 0266+A544 0268-D1 0269-D3 026A+A544 026B+29F7",
    "026C+A541 026F-D3 0271+29FD 0272-D5 0275-D6 027D+29E7 0280-DA 0282+A543 0283-DA",
    "0287+A52A 0288-DA 0289-45 028A~028B-D9 028C-47 0292-DB 029D+A515 029E+A512 0345+54",
    "0371/0373-1 0377-1 037B~037D+82 03AC-26 03AD~03AF-25 03B1~03C1-20 03C2-1F 03C3~03CB-20",
    "03CC-40 03CD~03CE-3F 03D0-3E 03D1-39 03D5-2F 03D6-36 03D7-8 03D9/03EF-1 03F0-56 03F1-50",
    "03F2+7 03F3-74 03F5-60 03F8-1 03FB-1 0430~044F-20 0450~045F-50 0461/0481-1 048B/04BF-1",
    "04C2/04CE-1 04CF-F 04D1/052F-1 0561~0586-30 10D0~10FA+BC0 10FD~10FF+BC0 13F8~13FD-8",
    "1C80-186E 1C81-186D 1C82-1864 1C83~1C84-1862 1C85-1863 1C86-185C 1C87-1825 1C88+89C2",
    "1C8A-1 1D79+8A04 1D7D+EE6 1D8E+8A38 1E01/1E95-1 1E9B-3B 1EA1/1EFF-1 1F00~1F07+8",
    "1F10~1F15+8 1F20~1F27+8 1F30~1F37+8 1F40~1F45+8 1F51/1F57+8 1F60~1F67+8 1F70~1F71+4A",
    "1F72~1F75+56 1F76~1F77+64 1F78~1F79+80 1F7A~1F7B+70 1F7C~1F7D+7E 1FB0~1FB1+8 1FBE-1C25",
    "1FD0~1FD1+8 1FE0~1FE1+8 1FE5+7 214E-1C 2170~217F-10 2184-1 24D0~24E9-1A 2C30~2C5F-30",
    "2C61-1 2C65-2A2B 2C66-2A28 2C68/2C6C-1 2C73-1 2C76-1 2C81/2CE3-1 2CEC/2CEE-1 2CF3-1",
    "2D00~2D25-1C60 2D27-1C60 2D2D-1C60 A641/A66D-1 A681/A69B-1 A723/A72F-1 A733/A76F-1",
    "A77A/A77C-1 A77F/A787-1 A78C-1 A791/A793-1 A794+30 A797/A7A9-1 A7B5/A7C3-1 A7C8/A7CA-1",
    "A7CD-1 A7D1-1 A7D7/A7DB-1 A7F6-1 AB53-3A0 AB70~ABBF-97D0 FF41~FF5A-20 10428~1044F-28",
    "104D8~104FB-28 10597~105A1-27 105A3~105B1-27 105B3~105B9-27 105BB~105BC-27",
    "10CC0~10CF2-40 10D70~10D85-20 118C0~118DF-20 16E60~16E7F-20 1E922~1E943-22"]

/-- Uppercase to lowercase, one character to one. -/
def lowerRuns : CaseRuns := .read [
    "00C0~00D6+20 00D8~00DE+20 0100/012E+1 0132/0136+1 0139/0147+1 014A/0176+1 0178-79",
    "0179/017D+1 0181+D2 0182/0184+1 0186+CE 0187+1 0189~018A+CD 018B+1 018E+4F 018F+CA",
    "0190+CB 0191+1 0193+CD 0194+CF 0196+D3 0197+D1 0198+1 019C+D3 019D+D5 019F+D6",
    "01A0/01A4+1 01A6+DA 01A7+1 01A9+DA 01AC+1 01AE+DA 01AF+1 01B1~01B2+D9 01B3/01B5+1",
    "01B7+DB 01B8+1 01BC+1 01C4+2 01C5+1 01C7+2 01C8+1 01CA+2 01CB/01DB+1 01DE/01EE+1 01F1+2",
    "01F2/01F4+1 01F6-61 01F7-38 01F8/021E+1 0220-82 0222/0232+1 023A+2A2B 023B+1 023D-A3",
    "023E+2A28 0241+1 0243-C3 0244+45 0245+47 0246/024E+1 0370/0372+1 0376+1 037F+74 0386+26",
    "0388~038A+25 038C+40 038E~038F+3F 0391~03A1+20 03A3~03AB+20 03CF+8 03D8/03EE+1 03F4-3C",
    "03F7+1 03F9-7 03FA+1 03FD~03FF-82 0400~040F+50 0410~042F+20 0460/0480+1 048A/04BE+1",
    "04C0+F 04C1/04CD+1 04D0/052E+1 0531~0556+30 10A0~10C5+1C60 10C7+1C60 10CD+1C60",
    "13A0~13EF+97D0 13F0~13F5+8 1C89+1 1C90~1CBA-BC0 1CBD~1CBF-BC0 1E00/1E94+1 1E9E-1DBF",
    "1EA0/1EFE+1 1F08~1F0F-8 1F18~1F1D-8 1F28~1F2F-8 1F38~1F3F-8 1F48~1F4D-8 1F59/1F5F-8",
    "1F68~1F6F-8 1F88~1F8F-8 1F98~1F9F-8 1FA8~1FAF-8 1FB8~1FB9-8 1FBA~1FBB-4A 1FBC-9",
    "1FC8~1FCB-56 1FCC-9 1FD8~1FD9-8 1FDA~1FDB-64 1FE8~1FE9-8 1FEA~1FEB-70 1FEC-7",
    "1FF8~1FF9-80 1FFA~1FFB-7E 1FFC-9 2126-1D5D 212A-20BF 212B-2046 2132+1C 2160~216F+10",
    "2183+1 24B6~24CF+1A 2C00~2C2F+30 2C60+1 2C62-29F7 2C63-EE6 2C64-29E7 2C67/2C6B+1",
    "2C6D-2A1C 2C6E-29FD 2C6F-2A1F 2C70-2A1E 2C72+1 2C75+1 2C7E~2C7F-2A3F 2C80/2CE2+1",
    "2CEB/2CED+1 2CF2+1 A640/A66C+1 A680/A69A+1 A722/A72E+1 A732/A76E+1 A779/A77B+1 A77D-8A04",
    "A77E/A786+1 A78B+1 A78D-A528 A790/A792+1 A796/A7A8+1 A7AA-A544 A7AB-A54F A7AC-A54B",
    "A7AD-A541 A7AE-A544 A7B0-A512 A7B1-A52A A7B2-A515 A7B3+3A0 A7B4/A7C2+1 A7C4-30 A7C5-A543",
    "A7C6-8A38 A7C7/A7C9+1 A7CB-A567 A7CC+1 A7D0+1 A7D6/A7DA+1 A7DC-A641 A7F5+1 FF21~FF3A+20",
    "10400~10427+28 104B0~104D3+28 10570~1057A+27 1057C~1058A+27 1058C~10592+27",
    "10594~10595+27 10C80~10CB2+40 10D50~10D65+20 118A0~118BF+20 16E40~16E5F+20",
    "1E900~1E921+22"]

/-- Characters whose uppercase is more than one character, each before its capitals. -/
def longUpper : List (Nat × List Nat) := readSequences [
    "00DF-0053-0053 0149-02BC-004E 01F0-004A-030C 0390-0399-0308-0301 03B0-03A5-0308-0301",
    "0587-0535-0552 1E96-0048-0331 1E97-0054-0308 1E98-0057-030A 1E99-0059-030A",
    "1E9A-0041-02BE 1F50-03A5-0313 1F52-03A5-0313-0300 1F54-03A5-0313-0301",
    "1F56-03A5-0313-0342 1F80-1F08-0399 1F81-1F09-0399 1F82-1F0A-0399 1F83-1F0B-0399",
    "1F84-1F0C-0399 1F85-1F0D-0399 1F86-1F0E-0399 1F87-1F0F-0399 1F88-1F08-0399",
    "1F89-1F09-0399 1F8A-1F0A-0399 1F8B-1F0B-0399 1F8C-1F0C-0399 1F8D-1F0D-0399",
    "1F8E-1F0E-0399 1F8F-1F0F-0399 1F90-1F28-0399 1F91-1F29-0399 1F92-1F2A-0399",
    "1F93-1F2B-0399 1F94-1F2C-0399 1F95-1F2D-0399 1F96-1F2E-0399 1F97-1F2F-0399",
    "1F98-1F28-0399 1F99-1F29-0399 1F9A-1F2A-0399 1F9B-1F2B-0399 1F9C-1F2C-0399",
    "1F9D-1F2D-0399 1F9E-1F2E-0399 1F9F-1F2F-0399 1FA0-1F68-0399 1FA1-1F69-0399",
    "1FA2-1F6A-0399 1FA3-1F6B-0399 1FA4-1F6C-0399 1FA5-1F6D-0399 1FA6-1F6E-0399",
    "1FA7-1F6F-0399 1FA8-1F68-0399 1FA9-1F69-0399 1FAA-1F6A-0399 1FAB-1F6B-0399",
    "1FAC-1F6C-0399 1FAD-1F6D-0399 1FAE-1F6E-0399 1FAF-1F6F-0399 1FB2-1FBA-0399",
    "1FB3-0391-0399 1FB4-0386-0399 1FB6-0391-0342 1FB7-0391-0342-0399 1FBC-0391-0399",
    "1FC2-1FCA-0399 1FC3-0397-0399 1FC4-0389-0399 1FC6-0397-0342 1FC7-0397-0342-0399",
    "1FCC-0397-0399 1FD2-0399-0308-0300 1FD3-0399-0308-0301 1FD6-0399-0342",
    "1FD7-0399-0308-0342 1FE2-03A5-0308-0300 1FE3-03A5-0308-0301 1FE4-03A1-0313",
    "1FE6-03A5-0342 1FE7-03A5-0308-0342 1FF2-1FFA-0399 1FF3-03A9-0399 1FF4-038F-0399",
    "1FF6-03A9-0342 1FF7-03A9-0342-0399 1FFC-03A9-0399 FB00-0046-0046 FB01-0046-0049",
    "FB02-0046-004C FB03-0046-0046-0049 FB04-0046-0046-004C FB05-0053-0054 FB06-0053-0054",
    "FB13-0544-0546 FB14-0544-0535 FB15-0544-053B FB16-054E-0546 FB17-0544-053D"]

/-- The lowest character that differs from a character in case alone. -/
def foldRuns : CaseRuns := .read [
    "0061~007A-20 00E0~00F6-20 00F8~00FE-20 0101/012F-1 0133/0137-1 013A/0148-1 014B/0177-1",
    "0178-79 017A/017E-1 017F-12C 0183/0185-1 0188-1 018C-1 0192-1 0199-1 01A1/01A5-1 01A8-1",
    "01AD-1 01B0-1 01B4/01B6-1 01B9-1 01BD-1 01C5-1 01C6-2 01C8-1 01C9-2 01CB-1 01CC-2",
    "01CE/01DC-1 01DD-4F 01DF/01EF-1 01F2-1 01F3-2 01F5-1 01F6-61 01F7-38 01F9/021F-1 0220-82",
    "0223/0233-1 023C-1 023D-A3 0242-1 0243-C3 0247/024F-1 0253-D2 0254-CE 0256~0257-CD",
    "0259-CA 025B-CB 0260-CD 0263-CF 0268-D1 0269-D3 026F-D3 0272-D5 0275-D6 0280-DA 0283-DA",
    "0288-DA 0289-45 028A~028B-D9 028C-47 0292-DB 0371/0373-1 0377-1 0399-54 039C-2E7 03AC-26",
    "03AD~03AF-25 03B1~03B8-20 03B9-74 03BA~03BB-20 03BC-307 03BD~03C1-20 03C2-1F",
    "03C3~03CB-20 03CC-40 03CD~03CE-3F 03D0-3E 03D1-39 03D5-2F 03D6-36 03D7-8 03D9/03EF-1",
    "03F0-56 03F1-50 03F3-74 03F4-5C 03F5-60 03F8-1 03F9-7 03FB-1 03FD~03FF-82 0430~044F-20",
    "0450~045F-50 0461/0481-1 048B/04BF-1 04C2/04CE-1 04CF-F 04D1/052F-1 0561~0586-30",
    "13F8~13FD-8 1C80-186E 1C81-186D 1C82-1864 1C83~1C84-1862 1C85-1863 1C86-185C 1C87-1825",
    "1C8A-1 1C90~1CBA-BC0 1CBD~1CBF-BC0 1E01/1E95-1 1E9B-3B 1E9E-1DBF 1EA1/1EFF-1 1F08~1F0F-8",
    "1F18~1F1D-8 1F28~1F2F-8 1F38~1F3F-8 1F48~1F4D-8 1F59/1F5F-8 1F68~1F6F-8 1F88~1F8F-8",
    "1F98~1F9F-8 1FA8~1FAF-8 1FB8~1FB9-8 1FBA~1FBB-4A 1FBC-9 1FBE-1C79 1FC8~1FCB-56 1FCC-9",
    "1FD3-1C43 1FD8~1FD9-8 1FDA~1FDB-64 1FE3-1C33 1FE8~1FE9-8 1FEA~1FEB-70 1FEC-7",
    "1FF8~1FF9-80 1FFA~1FFB-7E 1FFC-9 2126-1D7D 212A-20DF 212B-2066 214E-1C 2170~217F-10",
    "2184-1 24D0~24E9-1A 2C30~2C5F-30 2C61-1 2C62-29F7 2C63-EE6 2C64-29E7 2C65-2A2B 2C66-2A28",
    "2C68/2C6C-1 2C6D-2A1C 2C6E-29FD 2C6F-2A1F 2C70-2A1E 2C73-1 2C76-1 2C7E~2C7F-2A3F",
    "2C81/2CE3-1 2CEC/2CEE-1 2CF3-1 2D00~2D25-1C60 2D27-1C60 2D2D-1C60 A641/A649-1 A64A-89C2",
    "A64B-89C3 A64D/A66D-1 A681/A69B-1 A723/A72F-1 A733/A76F-1 A77A/A77C-1 A77D-8A04",
    "A77F/A787-1 A78C-1 A78D-A528 A791/A793-1 A797/A7A9-1 A7AA-A544 A7AB-A54F A7AC-A54B",
    "A7AD-A541 A7AE-A544 A7B0-A512 A7B1-A52A A7B2-A515 A7B5/A7C3-1 A7C4-30 A7C5-A543",
    "A7C6-8A38 A7C8/A7CA-1 A7CB-A567 A7CD-1 A7D1-1 A7D7/A7DB-1 A7DC-A641 A7F6-1 AB53-3A0",
    "AB70~ABBF-97D0 FB06-1 FF41~FF5A-20 10428~1044F-28 104D8~104FB-28 10597~105A1-27",
    "105A3~105B1-27 105B3~105B9-27 105BB~105BC-27 10CC0~10CF2-40 10D70~10D85-20",
    "118C0~118DF-20 16E60~16E7F-20 1E922~1E943-22"]

end MicroTemplate.Unicode

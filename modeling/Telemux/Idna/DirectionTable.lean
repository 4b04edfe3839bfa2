namespace Telemux

/-- Ranges of characters with the numbers of their bidirectional classes. -/
def directionRecords : String :=
  "0,8,8;e,1b,8;21,22,7;23,25,6;26,2a,7;2b,2b,4;2c,2c,5;2d,2d,4;2e,2f,5;30,39,3;3a,3a,5;3b,40,7;
    5b,60,7;7b,7e,7;7f,7f,8;a1,a1,7;a2,a5,6;a6,a7,7;a9,a9,7;ab,ac,7;ae,ae,7;b0,b1,6;b6,b7,7;
    bb,bb,7;bf,bf,7;d7,d7,7;f7,f7,7;2b9,2ba,7;2c2,2cf,7;2d2,2d7,7;2de,2df,7;2e5,2ed,7;2ef,2ff,7;
    300,33f,9;342,342,9;346,34e,9;350,36f,9;375,375,7;3f6,3f6,7;483,489,9;58a,58a,7;58d,58e,7;
    58f,58f,6;591,5bd,9;5be,5be,0;5bf,5bf,9;5c0,5c0,0;5c1,5c2,9;5c3,5c3,0;5c4,5c5,9;5c6,5c6,0;
    5c7,5c7,9;5d0,5ea,0;5ef,5f4,0;606,607,7;608,608,1;609,60a,6;60b,60b,1;60c,60c,5;60d,60d,1;
    60e,60f,7;610,61a,9;61b,61b,1;61d,64a,1;64b,65f,9;660,669,2;66a,66a,6;66b,66c,2;66d,66f,1;
    670,670,9;671,674,1;679,6d5,1;6d6,6dc,9;6de,6de,7;6df,6e4,9;6e5,6e6,1;6e7,6e8,9;6e9,6e9,7;
    6ea,6ed,9;6ee,6ef,1;6f0,6f9,3;6fa,70d,1;710,710,1;711,711,9;712,72f,1;730,74a,9;74d,7a5,1;
    7a6,7b0,9;7b1,7b1,1;7c0,7ea,0;7eb,7f3,9;7f4,7f5,0;7f6,7f9,7;7fa,7fa,0;7fd,7fd,9;7fe,815,0;
    816,819,9;81a,81a,0;81b,823,9;824,824,0;825,827,9;828,828,0;829,82d,9;830,83e,0;840,858,0;
    859,85b,9;85e,85e,0;860,86a,1;870,88e,1;898,89f,9;8a0,8c9,1;8ca,8e1,9;8e3,902,9;93a,93a,9;
    93c,93c,9;941,948,9;94d,94d,9;951,957,9;962,963,9;981,981,9;9bc,9bc,9;9c1,9c4,9;9cd,9cd,9;
    9e2,9e3,9;9f2,9f3,6;9fb,9fb,6;9fe,9fe,9;a01,a02,9;a3c,a3c,9;a41,a42,9;a47,a48,9;a4b,a4d,9;
    a51,a51,9;a70,a71,9;a75,a75,9;a81,a82,9;abc,abc,9;ac1,ac5,9;ac7,ac8,9;acd,acd,9;ae2,ae3,9;
    af1,af1,6;afa,aff,9;b01,b01,9;b3c,b3c,9;b3f,b3f,9;b41,b44,9;b4d,b4d,9;b55,b56,9;b62,b63,9;
    b82,b82,9;bc0,bc0,9;bcd,bcd,9;bf3,bf8,7;bf9,bf9,6;bfa,bfa,7;c00,c00,9;c04,c04,9;c3c,c3c,9;
    c3e,c40,9;c46,c48,9;c4a,c4d,9;c55,c56,9;c62,c63,9;c78,c7e,7;c81,c81,9;cbc,cbc,9;ccc,ccd,9;
    ce2,ce3,9;d00,d01,9;d3b,d3c,9;d41,d44,9;d4d,d4d,9;d62,d63,9;d81,d81,9;dca,dca,9;dd2,dd4,9;
    dd6,dd6,9;e31,e31,9;e34,e3a,9;e3f,e3f,6;e47,e4e,9;eb1,eb1,9;eb4,ebc,9;ec8,ecd,9;f18,f19,9;
    f35,f35,9;f37,f37,9;f39,f39,9;f3a,f3d,7;f71,f72,9;f74,f74,9;f7a,f7e,9;f80,f80,9;f82,f84,9;
    f86,f87,9;f8d,f92,9;f94,f97,9;f99,f9c,9;f9e,fa1,9;fa3,fa6,9;fa8,fab,9;fad,fb8,9;fba,fbc,9;
    fc6,fc6,9;102d,1030,9;1032,1037,9;1039,103a,9;103d,103e,9;1058,1059,9;105e,1060,9;1071,1074,9;
    1082,1082,9;1085,1086,9;108d,108d,9;109d,109d,9;135d,135f,9;1390,1399,7;1400,1400,7;
    169b,169c,7;1712,1714,9;1732,1733,9;1752,1753,9;1772,1773,9;17b7,17bd,9;17c6,17c6,9;
    17c9,17d3,9;17db,17db,6;17dd,17dd,9;17f0,17f9,7;1800,180a,7;1885,1886,9;18a9,18a9,9;
    1920,1922,9;1927,1928,9;1932,1932,9;1939,193b,9;1940,1940,7;1944,1945,7;19de,19ff,7;
    1a17,1a18,9;1a1b,1a1b,9;1a56,1a56,9;1a58,1a5e,9;1a60,1a60,9;1a62,1a62,9;1a65,1a6c,9;
    1a73,1a7c,9;1a7f,1a7f,9;1ab0,1ace,9;1b00,1b03,9;1b34,1b34,9;1b36,1b3a,9;1b3c,1b3c,9;
    1b42,1b42,9;1b6b,1b73,9;1b80,1b81,9;1ba2,1ba5,9;1ba8,1ba9,9;1bab,1bad,9;1be6,1be6,9;
    1be8,1be9,9;1bed,1bed,9;1bef,1bf1,9;1c2c,1c33,9;1c36,1c37,9;1cd0,1cd2,9;1cd4,1ce0,9;
    1ce2,1ce8,9;1ced,1ced,9;1cf4,1cf4,9;1cf8,1cf9,9;1dc0,1dff,9;200c,200d,8;2010,2010,7;
    2012,2016,7;2018,2023,7;2027,2027,7;2030,2032,6;2035,2035,7;2038,203b,7;203d,203d,7;
    203f,2043,7;2044,2044,5;2045,2046,7;204a,2056,7;2058,205e,7;20a0,20a7,6;20a9,20c0,6;
    20d0,20f0,9;2104,2104,7;2108,2108,7;2114,2114,7;2117,2118,7;211e,211f,7;2123,2123,7;
    2125,2125,7;2127,2127,7;2129,2129,7;212e,212e,6;213a,213a,7;2141,2144,7;214a,214d,7;
    218a,218b,7;2190,2211,7;2212,2212,4;2213,2213,6;2214,222b,7;222e,222e,7;2231,2328,7;
    232b,2335,7;237b,2394,7;2396,2426,7;2440,244a,7;24eb,26ab,7;26ad,27ff,7;2900,2a0b,7;
    2a0d,2a73,7;2a77,2adb,7;2add,2b73,7;2b76,2b95,7;2b97,2bff,7;2ce5,2cea,7;2cef,2cf1,9;
    2cf9,2cff,7;2d7f,2d7f,9;2de0,2dff,9;2e00,2e5d,7;2e80,2e99,7;2e9b,2e9e,7;2ea0,2ef2,7;
    3001,3001,7;3003,3004,7;3008,3020,7;302a,302d,9;3030,3030,7;3037,3037,7;303d,303f,7;
    3099,309a,9;30a0,30a0,7;30fb,30fb,7;31c0,31e3,7;4dc0,4dff,7;a490,a4c6,7;a60d,a60f,7;
    a66f,a672,9;a673,a673,7;a674,a67d,9;a67e,a67f,7;a69e,a69f,9;a6f0,a6f1,9;a700,a721,7;
    a788,a788,7;a802,a802,9;a806,a806,9;a80b,a80b,9;a825,a826,9;a828,a82b,7;a82c,a82c,9;
    a838,a839,6;a874,a877,7;a8c4,a8c5,9;a8e0,a8f1,9;a8ff,a8ff,9;a926,a92d,9;a947,a951,9;
    a980,a982,9;a9b3,a9b3,9;a9b6,a9b9,9;a9bc,a9bd,9;a9e5,a9e5,9;aa29,aa2e,9;aa31,aa32,9;
    aa35,aa36,9;aa43,aa43,9;aa4c,aa4c,9;aa7c,aa7c,9;aab0,aab0,9;aab2,aab4,9;aab7,aab8,9;
    aabe,aabf,9;aac1,aac1,9;aaec,aaed,9;aaf6,aaf6,9;ab6a,ab6b,7;abe5,abe5,9;abe8,abe8,9;
    abed,abed,9;fb1e,fb1e,9;fbb2,fbc2,1;fd3e,fd4f,7;fdcf,fdcf,7;fdfd,fdff,7;fe20,fe2f,9;
    fe45,fe46,7;fe73,fe73,1;10101,10101,7;10140,1018c,7;10190,1019c,7;101a0,101a0,7;101fd,101fd,9;
    102e0,102e0,9;102e1,102fb,3;10376,1037a,9;10800,10805,0;10808,10808,0;1080a,10835,0;
    10837,10838,0;1083c,1083c,0;1083f,10855,0;10857,1089e,0;108a7,108af,0;108e0,108f2,0;
    108f4,108f5,0;108fb,1091b,0;1091f,1091f,7;10920,10939,0;1093f,1093f,0;10980,109b7,0;
    109bc,109cf,0;109d2,10a00,0;10a01,10a03,9;10a05,10a06,9;10a0c,10a0f,9;10a10,10a13,0;
    10a15,10a17,0;10a19,10a35,0;10a38,10a3a,9;10a3f,10a3f,9;10a40,10a48,0;10a50,10a58,0;
    10a60,10a9f,0;10ac0,10ae4,0;10ae5,10ae6,9;10aeb,10af6,0;10b00,10b35,0;10b39,10b3f,7;
    10b40,10b55,0;10b58,10b72,0;10b78,10b91,0;10b99,10b9c,0;10ba9,10baf,0;10c00,10c48,0;
    10cc0,10cf2,0;10cfa,10cff,0;10d00,10d23,1;10d24,10d27,9;10d30,10d39,2;10e60,10e7e,2;
    10e80,10ea9,0;10eab,10eac,9;10ead,10ead,0;10eb0,10eb1,0;10f00,10f27,0;10f30,10f45,1;
    10f46,10f50,9;10f51,10f59,1;10f70,10f81,0;10f82,10f85,9;10f86,10f89,0;10fb0,10fcb,0;
    10fe0,10ff6,0;11001,11001,9;11038,11046,9;11052,11065,7;11070,11070,9;11073,11074,9;
    1107f,11081,9;110b3,110b6,9;110b9,110ba,9;110c2,110c2,9;11100,11102,9;11127,1112b,9;
    1112d,11134,9;11173,11173,9;11180,11181,9;111b6,111be,9;111c9,111cc,9;111cf,111cf,9;
    1122f,11231,9;11234,11234,9;11236,11237,9;1123e,1123e,9;112df,112df,9;112e3,112ea,9;
    11300,11301,9;1133b,1133c,9;11340,11340,9;11366,1136c,9;11370,11374,9;11438,1143f,9;
    11442,11444,9;11446,11446,9;1145e,1145e,9;114b3,114b8,9;114ba,114ba,9;114bf,114c0,9;
    114c2,114c3,9;115b2,115b5,9;115bc,115bd,9;115bf,115c0,9;115dc,115dd,9;11633,1163a,9;
    1163d,1163d,9;1163f,11640,9;11660,1166c,7;116ab,116ab,9;116ad,116ad,9;116b0,116b5,9;
    116b7,116b7,9;1171d,1171f,9;11722,11725,9;11727,1172b,9;1182f,11837,9;11839,1183a,9;
    1193b,1193c,9;1193e,1193e,9;11943,11943,9;119d4,119d7,9;119da,119db,9;119e0,119e0,9;
    11a01,11a06,9;11a09,11a0a,9;11a33,11a38,9;11a3b,11a3e,9;11a47,11a47,9;11a51,11a56,9;
    11a59,11a5b,9;11a8a,11a96,9;11a98,11a99,9;11c30,11c36,9;11c38,11c3d,9;11c92,11ca7,9;
    11caa,11cb0,9;11cb2,11cb3,9;11cb5,11cb6,9;11d31,11d36,9;11d3a,11d3a,9;11d3c,11d3d,9;
    11d3f,11d45,9;11d47,11d47,9;11d90,11d91,9;11d95,11d95,9;11d97,11d97,9;11ef3,11ef4,9;
    11fd5,11fdc,7;11fdd,11fe0,6;11fe1,11ff1,7;16af0,16af4,9;16b30,16b36,9;16f4f,16f4f,9;
    16f8f,16f92,9;16fe2,16fe2,7;16fe4,16fe4,9;1bc9d,1bc9e,9;1cf00,1cf2d,9;1cf30,1cf46,9;
    1d167,1d169,9;1d17b,1d182,9;1d185,1d18b,9;1d1aa,1d1ad,9;1d1e9,1d1ea,7;1d200,1d241,7;
    1d242,1d244,9;1d245,1d245,7;1d300,1d356,7;1da00,1da36,9;1da3b,1da6c,9;1da75,1da75,9;
    1da84,1da84,9;1da9b,1da9f,9;1daa1,1daaf,9;1e000,1e006,9;1e008,1e018,9;1e01b,1e021,9;
    1e023,1e024,9;1e026,1e02a,9;1e130,1e136,9;1e2ae,1e2ae,9;1e2ec,1e2ef,9;1e2ff,1e2ff,6;
    1e800,1e8c4,0;1e8c7,1e8cf,0;1e8d0,1e8d6,9;1e922,1e943,0;1e944,1e94a,9;1e94b,1e94b,0;
    1e950,1e959,0;1e95e,1e95f,0;1ec71,1ecb4,1;1ed01,1ed3d,1;1eef0,1eef1,7;1f000,1f02b,7;
    1f030,1f093,7;1f0a0,1f0ae,7;1f0b1,1f0bf,7;1f0c1,1f0cf,7;1f0d1,1f0f5,7;1f10b,1f10f,7;
    1f12f,1f12f,7;1f16d,1f16f,7;1f1ad,1f1ad,7;1f260,1f265,7;1f300,1f6d7,7;1f6dd,1f6ec,7;
    1f6f0,1f6fc,7;1f700,1f773,7;1f780,1f7d8,7;1f7e0,1f7eb,7;1f7f0,1f7f0,7;1f800,1f80b,7;
    1f810,1f847,7;1f850,1f859,7;1f860,1f887,7;1f890,1f8ad,7;1f8b0,1f8b1,7;1f900,1fa53,7;
    1fa60,1fa6d,7;1fa70,1fa74,7;1fa78,1fa7c,7;1fa80,1fa86,7;1fa90,1faac,7;1fab0,1faba,7;
    1fac0,1fac5,7;1fad0,1fad9,7;1fae0,1fae7,7;1faf0,1faf6,7;1fb00,1fb92,7;1fb94,1fbca,7;"

/-- Ranges of characters with the numbers of their joining types. -/
def joiningRecords : String :=
  "300,33f,3;342,342,3;346,34e,3;350,36f,3;483,489,3;591,5bd,3;5bf,5bf,3;5c1,5c2,3;5c4,5c5,3;
    5c7,5c7,3;610,61a,3;620,620,2;622,625,1;626,626,2;627,627,1;628,628,2;629,629,1;62a,62e,2;
    62f,632,1;633,63f,2;641,647,2;648,648,1;649,64a,2;64b,65f,3;66e,66f,2;670,670,3;671,673,1;
    679,687,2;688,699,1;69a,6bf,2;6c0,6c0,1;6c1,6c2,2;6c3,6cb,1;6cc,6cc,2;6cd,6cd,1;6ce,6ce,2;
    6cf,6cf,1;6d0,6d1,2;6d2,6d3,1;6d5,6d5,1;6d6,6dc,3;6df,6e4,3;6e7,6e8,3;6ea,6ed,3;6ee,6ef,1;
    6fa,6fc,2;6ff,6ff,2;710,710,1;711,711,3;712,714,2;715,719,1;71a,71d,2;71e,71e,1;71f,727,2;
    728,728,1;729,729,2;72a,72a,1;72b,72b,2;72c,72c,1;72d,72e,2;72f,72f,1;730,74a,3;74d,74d,1;
    74e,758,2;759,75b,1;75c,76a,2;76b,76c,1;76d,770,2;771,771,1;772,772,2;773,774,1;775,777,2;
    778,779,1;77a,77f,2;7a6,7b0,3;7ca,7ea,2;7eb,7f3,3;7fd,7fd,3;816,819,3;81b,823,3;825,827,3;
    829,82d,3;840,840,1;841,845,2;846,847,1;848,848,2;849,849,1;84a,853,2;854,854,1;855,855,2;
    856,858,1;859,85b,3;860,860,2;862,865,2;867,867,1;868,868,2;869,86a,1;870,882,1;886,886,2;
    889,88d,2;88e,88e,1;88f,88f,2;897,89f,3;8a0,8a9,2;8aa,8ac,1;8ae,8ae,1;8af,8b0,2;8b1,8b2,1;
    8b3,8b8,2;8b9,8b9,1;8ba,8c8,2;8ca,8e1,3;8e3,902,3;93a,93a,3;93c,93c,3;941,948,3;94d,94d,3;
    951,957,3;962,963,3;981,981,3;9bc,9bc,3;9c1,9c4,3;9cd,9cd,3;9e2,9e3,3;9fe,9fe,3;a01,a02,3;
    a3c,a3c,3;a41,a42,3;a47,a48,3;a4b,a4d,3;a51,a51,3;a70,a71,3;a75,a75,3;a81,a82,3;abc,abc,3;
    ac1,ac5,3;ac7,ac8,3;acd,acd,3;ae2,ae3,3;afa,aff,3;b01,b01,3;b3c,b3c,3;b3f,b3f,3;b41,b44,3;
    b4d,b4d,3;b55,b56,3;b62,b63,3;b82,b82,3;bc0,bc0,3;bcd,bcd,3;c00,c00,3;c04,c04,3;c3c,c3c,3;
    c3e,c40,3;c46,c48,3;c4a,c4d,3;c55,c56,3;c62,c63,3;c81,c81,3;cbc,cbc,3;cbf,cbf,3;cc6,cc6,3;
    ccc,ccd,3;ce2,ce3,3;d00,d01,3;d3b,d3c,3;d41,d44,3;d4d,d4d,3;d62,d63,3;d81,d81,3;dca,dca,3;
    dd2,dd4,3;dd6,dd6,3;e31,e31,3;e34,e3a,3;e47,e4e,3;eb1,eb1,3;eb4,ebc,3;ec8,ece,3;f18,f19,3;
    f35,f35,3;f37,f37,3;f39,f39,3;f71,f72,3;f74,f74,3;f7a,f7e,3;f80,f80,3;f82,f84,3;f86,f87,3;
    f8d,f92,3;f94,f97,3;f99,f9c,3;f9e,fa1,3;fa3,fa6,3;fa8,fab,3;fad,fb8,3;fba,fbc,3;fc6,fc6,3;
    102d,1030,3;1032,1037,3;1039,103a,3;103d,103e,3;1058,1059,3;105e,1060,3;1071,1074,3;
    1082,1082,3;1085,1086,3;108d,108d,3;109d,109d,3;135d,135f,3;1712,1714,3;1732,1733,3;
    1752,1753,3;1772,1773,3;17b7,17bd,3;17c6,17c6,3;17c9,17d3,3;17dd,17dd,3;1807,1807,2;
    1820,1878,2;1885,1886,3;1887,18a8,2;18a9,18a9,3;18aa,18aa,2;1920,1922,3;1927,1928,3;
    1932,1932,3;1939,193b,3;1a17,1a18,3;1a1b,1a1b,3;1a56,1a56,3;1a58,1a5e,3;1a60,1a60,3;
    1a62,1a62,3;1a65,1a6c,3;1a73,1a7c,3;1a7f,1a7f,3;1ab0,1add,3;1ae0,1aeb,3;1b00,1b03,3;
    1b34,1b34,3;1b36,1b3a,3;1b3c,1b3c,3;1b42,1b42,3;1b6b,1b73,3;1b80,1b81,3;1ba2,1ba5,3;
    1ba8,1ba9,3;1bab,1bad,3;1be6,1be6,3;1be8,1be9,3;1bed,1bed,3;1bef,1bf1,3;1c2c,1c33,3;
    1c36,1c37,3;1cd0,1cd2,3;1cd4,1ce0,3;1ce2,1ce8,3;1ced,1ced,3;1cf4,1cf4,3;1cf8,1cf9,3;
    1dc0,1dff,3;20d0,20f0,3;2cef,2cf1,3;2d7f,2d7f,3;2de0,2dff,3;302a,302d,3;3099,309a,3;
    a66f,a672,3;a674,a67d,3;a69e,a69f,3;a6f0,a6f1,3;a802,a802,3;a806,a806,3;a80b,a80b,3;
    a825,a826,3;a82c,a82c,3;a840,a871,2;a872,a872,0;a8c4,a8c5,3;a8e0,a8f1,3;a8ff,a8ff,3;
    a926,a92d,3;a947,a951,3;a980,a982,3;a9b3,a9b3,3;a9b6,a9b9,3;a9bc,a9bd,3;a9e5,a9e5,3;
    aa29,aa2e,3;aa31,aa32,3;aa35,aa36,3;aa43,aa43,3;aa4c,aa4c,3;aa7c,aa7c,3;aab0,aab0,3;
    aab2,aab4,3;aab7,aab8,3;aabe,aabf,3;aac1,aac1,3;aaec,aaed,3;aaf6,aaf6,3;abe5,abe5,3;
    abe8,abe8,3;abed,abed,3;fb1e,fb1e,3;fe20,fe2f,3;101fd,101fd,3;102e0,102e0,3;10376,1037a,3;
    10a01,10a03,3;10a05,10a06,3;10a0c,10a0f,3;10a38,10a3a,3;10a3f,10a3f,3;10ac0,10ac4,2;
    10ac5,10ac5,1;10ac7,10ac7,1;10ac9,10aca,1;10acd,10acd,0;10ace,10ad2,1;10ad3,10ad6,2;
    10ad7,10ad7,0;10ad8,10adc,2;10add,10add,1;10ade,10ae0,2;10ae1,10ae1,1;10ae4,10ae4,1;
    10ae5,10ae6,3;10aeb,10aee,2;10aef,10aef,1;10b80,10b80,2;10b81,10b81,1;10b82,10b82,2;
    10b83,10b85,1;10b86,10b88,2;10b89,10b89,1;10b8a,10b8b,2;10b8c,10b8c,1;10b8d,10b8d,2;
    10b8e,10b8f,1;10b90,10b90,2;10b91,10b91,1;10ba9,10bac,1;10bad,10bae,2;10d00,10d00,0;
    10d01,10d21,2;10d22,10d22,1;10d23,10d23,2;10d24,10d27,3;10d69,10d6d,3;10eab,10eac,3;
    10ec2,10ec2,1;10ec3,10ec4,2;10ec6,10ec7,2;10efa,10eff,3;10f30,10f32,2;10f33,10f33,1;
    10f34,10f44,2;10f46,10f50,3;10f51,10f53,2;10f54,10f54,1;10f70,10f73,2;10f74,10f75,1;
    10f76,10f81,2;10f82,10f85,3;10fb0,10fb0,2;10fb2,10fb3,2;10fb4,10fb6,1;10fb8,10fb8,2;
    10fb9,10fba,1;10fbb,10fbc,2;10fbd,10fbd,1;10fbe,10fbf,2;10fc1,10fc1,2;10fc2,10fc3,1;
    10fc4,10fc4,2;10fc9,10fc9,1;10fca,10fca,2;10fcb,10fcb,0;11001,11001,3;11038,11046,3;
    11070,11070,3;11073,11074,3;1107f,11081,3;110b3,110b6,3;110b9,110ba,3;110c2,110c2,3;
    11100,11102,3;11127,1112b,3;1112d,11134,3;11173,11173,3;11180,11181,3;111b6,111be,3;
    111c9,111cc,3;111cf,111cf,3;1122f,11231,3;11234,11234,3;11236,11237,3;1123e,1123e,3;
    11241,11241,3;112df,112df,3;112e3,112ea,3;11300,11301,3;1133b,1133c,3;11340,11340,3;
    11366,1136c,3;11370,11374,3;113bb,113c0,3;113ce,113ce,3;113d0,113d0,3;113d2,113d2,3;
    113e1,113e2,3;11438,1143f,3;11442,11444,3;11446,11446,3;1145e,1145e,3;114b3,114b8,3;
    114ba,114ba,3;114bf,114c0,3;114c2,114c3,3;115b2,115b5,3;115bc,115bd,3;115bf,115c0,3;
    115dc,115dd,3;11633,1163a,3;1163d,1163d,3;1163f,11640,3;116ab,116ab,3;116ad,116ad,3;
    116b0,116b5,3;116b7,116b7,3;1171d,1171d,3;1171f,1171f,3;11722,11725,3;11727,1172b,3;
    1182f,11837,3;11839,1183a,3;1193b,1193c,3;1193e,1193e,3;11943,11943,3;119d4,119d7,3;
    119da,119db,3;119e0,119e0,3;11a01,11a0a,3;11a33,11a38,3;11a3b,11a3e,3;11a47,11a47,3;
    11a51,11a56,3;11a59,11a5b,3;11a8a,11a96,3;11a98,11a99,3;11b60,11b60,3;11b62,11b64,3;
    11b66,11b66,3;11c30,11c36,3;11c38,11c3d,3;11c3f,11c3f,3;11c92,11ca7,3;11caa,11cb0,3;
    11cb2,11cb3,3;11cb5,11cb6,3;11d31,11d36,3;11d3a,11d3a,3;11d3c,11d3d,3;11d3f,11d45,3;
    11d47,11d47,3;11d90,11d91,3;11d95,11d95,3;11d97,11d97,3;11ef3,11ef4,3;11f00,11f01,3;
    11f36,11f3a,3;11f40,11f40,3;11f42,11f42,3;11f5a,11f5a,3;13440,13440,3;13447,13455,3;
    1611e,16129,3;1612d,1612f,3;16af0,16af4,3;16b30,16b36,3;16f4f,16f4f,3;16f8f,16f92,3;
    16fe4,16fe4,3;1bc9d,1bc9e,3;1cf00,1cf2d,3;1cf30,1cf46,3;1d167,1d169,3;1d17b,1d182,3;
    1d185,1d18b,3;1d1aa,1d1ad,3;1d242,1d244,3;1da00,1da36,3;1da3b,1da6c,3;1da75,1da75,3;
    1da84,1da84,3;1da9b,1da9f,3;1daa1,1daaf,3;1e000,1e006,3;1e008,1e018,3;1e01b,1e021,3;
    1e023,1e024,3;1e026,1e02a,3;1e08f,1e08f,3;1e130,1e136,3;1e2ae,1e2ae,3;1e2ec,1e2ef,3;
    1e4ec,1e4ef,3;1e5ee,1e5ef,3;1e6e3,1e6e3,3;1e6e6,1e6e6,3;1e6ee,1e6ef,3;1e6f5,1e6f5,3;
    1e8d0,1e8d6,3;1e922,1e943,2;1e944,1e94b,3;"

end Telemux

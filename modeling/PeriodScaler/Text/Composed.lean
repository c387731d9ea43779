import PeriodScaler.Text.Runs

/-!
# Composed texts

The composed form of a text: marks that follow a character are put into the order of their classes,
and a character with a mark is written as one character where there is one for both. A syllable of
Hangul is composed by arithmetic.

The form is that of a text in which no character stands for another one or for several others that
do not compose; what reads names replaces such characters first.

Model of the normalizer that the library for host names calls.
-/

namespace PeriodScaler.Text

/-- For a character, in turn: a character that may follow it, and the one that both compose to. -/
def pairRuns : Array Run :=
  Run.table "
    3c:338:226e,1:338:2260,1:338:226f,3:300:c0:301:c1:302:c2:303:c3:304:100:306:102:307:226:308:c4
    :309:1ea2:30a:c5:30c:1cd:30f:200:311:202:323:1ea0:325:1e00:328:104,1:307:1e02:323:1e04:331
    :1e06,1:301:106:302:108:307:10a:30c:10c:327:c7,1:307:1e0a:30c:10e:323:1e0c:327:1e10:32d:1e12
    :331:1e0e,1:300:c8:301:c9:302:ca:303:1ebc:304:112:306:114:307:116:308:cb:309:1eba:30c:11a:30f
    :204:311:206:323:1eb8:327:228:328:118:32d:1e18:330:1e1a,1:307:1e1e,1:301:1f4:302:11c:304:1e20
    :306:11e:307:120:30c:1e6:327:122,1:302:124:307:1e22:308:1e26:30c:21e:323:1e24:327:1e28:32e
    :1e2a,1:300:cc:301:cd:302:ce:303:128:304:12a:306:12c:307:130:308:cf:309:1ec8:30c:1cf:30f:208
    :311:20a:323:1eca:328:12e:330:1e2c,1:302:134,1:301:1e30:30c:1e8:323:1e32:327:136:331:1e34,1:301
    :139:30c:13d:323:1e36:327:13b:32d:1e3c:331:1e3a,1:301:1e3e:307:1e40:323:1e42,1:300:1f8:301:143
    :303:d1:307:1e44:30c:147:323:1e46:327:145:32d:1e4a:331:1e48,1:300:d2:301:d3:302:d4:303:d5:304
    :14c:306:14e:307:22e:308:d6:309:1ece:30b:150:30c:1d1:30f:20c:311:20e:31b:1a0:323:1ecc:328:1ea,1
    :301:1e54:307:1e56,2:301:154:307:1e58:30c:158:30f:210:311:212:323:1e5a:327:156:331:1e5e,1:301
    :15a:302:15c:307:1e60:30c:160:323:1e62:326:218:327:15e,1:307:1e6a:30c:164:323:1e6c:326:21a:327
    :162:32d:1e70:331:1e6e,1:300:d9:301:da:302:db:303:168:304:16a:306:16c:308:dc:309:1ee6:30a:16e
    :30b:170:30c:1d3:30f:214:311:216:31b:1af:323:1ee4:324:1e72:328:172:32d:1e76:330:1e74,1:303:1e7c
    :323:1e7e,1:300:1e80:301:1e82:302:174:307:1e86:308:1e84:323:1e88,1:307:1e8a:308:1e8c,1:300:1ef2
    :301:dd:302:176:303:1ef8:304:232:307:1e8e:308:178:309:1ef6:323:1ef4,1:301:179:302:1e90:307:17b
    :30c:17d:323:1e92:331:1e94,7:300:e0:301:e1:302:e2:303:e3:304:101:306:103:307:227:308:e4:309
    :1ea3:30a:e5:30c:1ce:30f:201:311:203:323:1ea1:325:1e01:328:105,1:307:1e03:323:1e05:331:1e07,1
    :301:107:302:109:307:10b:30c:10d:327:e7,1:307:1e0b:30c:10f:323:1e0d:327:1e11:32d:1e13:331:1e0f,
    1:300:e8:301:e9:302:ea:303:1ebd:304:113:306:115:307:117:308:eb:309:1ebb:30c:11b:30f:205:311:207
    :323:1eb9:327:229:328:119:32d:1e19:330:1e1b,1:307:1e1f,1:301:1f5:302:11d:304:1e21:306:11f:307
    :121:30c:1e7:327:123,1:302:125:307:1e23:308:1e27:30c:21f:323:1e25:327:1e29:32e:1e2b:331:1e96,1
    :300:ec:301:ed:302:ee:303:129:304:12b:306:12d:308:ef:309:1ec9:30c:1d0:30f:209:311:20b:323:1ecb
    :328:12f:330:1e2d,1:302:135:30c:1f0,1:301:1e31:30c:1e9:323:1e33:327:137:331:1e35,1:301:13a:30c
    :13e:323:1e37:327:13c:32d:1e3d:331:1e3b,1:301:1e3f:307:1e41:323:1e43,1:300:1f9:301:144:303:f1
    :307:1e45:30c:148:323:1e47:327:146:32d:1e4b:331:1e49,1:300:f2:301:f3:302:f4:303:f5:304:14d:306
    :14f:307:22f:308:f6:309:1ecf:30b:151:30c:1d2:30f:20d:311:20f:31b:1a1:323:1ecd:328:1eb,1:301
    :1e55:307:1e57,2:301:155:307:1e59:30c:159:30f:211:311:213:323:1e5b:327:157:331:1e5f,1:301:15b
    :302:15d:307:1e61:30c:161:323:1e63:326:219:327:15f,1:307:1e6b:308:1e97:30c:165:323:1e6d:326:21b
    :327:163:32d:1e71:331:1e6f,1:300:f9:301:fa:302:fb:303:169:304:16b:306:16d:308:fc:309:1ee7:30a
    :16f:30b:171:30c:1d4:30f:215:311:217:31b:1b0:323:1ee5:324:1e73:328:173:32d:1e77:330:1e75,1:303
    :1e7d:323:1e7f,1:300:1e81:301:1e83:302:175:307:1e87:308:1e85:30a:1e98:323:1e89,1:307:1e8b:308
    :1e8d,1:300:1ef3:301:fd:302:177:303:1ef9:304:233:307:1e8f:308:ff:309:1ef7:30a:1e99:323:1ef5,1
    :301:17a:302:1e91:307:17c:30c:17e:323:1e93:331:1e95,2e:300:1fed:301:385:342:1fc1,1a:300:1ea6
    :301:1ea4:303:1eaa:309:1ea8,2:304:1de,1:301:1fa,1:301:1fc:304:1e2,1:301:1e08,3:300:1ec0:301
    :1ebe:303:1ec4:309:1ec2,5:301:1e2e,5:300:1ed2:301:1ed0:303:1ed6:309:1ed4,1:301:1e4c:304:22c:308
    :1e4e,1:304:22a,2:301:1fe,4:300:1db:301:1d7:304:1d5:30c:1d9,6:300:1ea7:301:1ea5:303:1eab:309
    :1ea9,2:304:1df,1:301:1fb,1:301:1fd:304:1e3,1:301:1e09,3:300:1ec1:301:1ebf:303:1ec5:309:1ec3,5
    :301:1e2f,5:300:1ed3:301:1ed1:303:1ed7:309:1ed5,1:301:1e4d:304:22d:308:1e4f,1:304:22b,2:301
    :1ff,4:300:1dc:301:1d8:304:1d6:30c:1da,6:300:1eb0:301:1eae:303:1eb4:309:1eb2,1:300:1eb1:301
    :1eaf:303:1eb5:309:1eb3,f:300:1e14:301:1e16,1:300:1e15:301:1e17,39:300:1e50:301:1e52,1:300:1e51
    :301:1e53,d:307:1e64,1:307:1e65,5:307:1e66,1:307:1e67,7:301:1e78,1:301:1e79,1:308:1e7a,1:308
    :1e7b,14:307:1e9b,21:300:1edc:301:1eda:303:1ee0:309:1ede:323:1ee2,1:300:1edd:301:1edb:303:1ee1
    :309:1edf:323:1ee3,e:300:1eea:301:1ee8:303:1eee:309:1eec:323:1ef0,1:300:1eeb:301:1ee9:303:1eef
    :309:1eed:323:1ef1,7:30c:1ee,33:304:1ec,1:304:1ed,3b:304:1e0,1:304:1e1,1:306:1e1c,1:306:1e1d,5
    :304:230,1:304:231,63:30c:1ef,ff:300:1fba:301:386:304:1fb9:306:1fb8:313:1f08:314:1f09:345:1fbc,
    4:300:1fc8:301:388:313:1f18:314:1f19,2:300:1fca:301:389:313:1f28:314:1f29:345:1fcc,2:300:1fda
    :301:38a:304:1fd9:306:1fd8:308:3aa:313:1f38:314:1f39,6:300:1ff8:301:38c:313:1f48:314:1f49,2:314
    :1fec,4:300:1fea:301:38e:304:1fe9:306:1fe8:308:3ab:314:1f59,4:300:1ffa:301:38f:313:1f68:314
    :1f69:345:1ffc,3:345:1fb4,2:345:1fc4,3:300:1f70:301:3ac:304:1fb1:306:1fb0:313:1f00:314:1f01:342
    :1fb6:345:1fb3,4:300:1f72:301:3ad:313:1f10:314:1f11,2:300:1f74:301:3ae:313:1f20:314:1f21:342
    :1fc6:345:1fc3,2:300:1f76:301:3af:304:1fd1:306:1fd0:308:3ca:313:1f30:314:1f31:342:1fd6,6:300
    :1f78:301:3cc:313:1f40:314:1f41,2:313:1fe4:314:1fe5,4:300:1f7a:301:3cd:304:1fe1:306:1fe0:308
    :3cb:313:1f50:314:1f51:342:1fe6,4:300:1f7c:301:3ce:313:1f60:314:1f61:342:1ff6:345:1ff3,1:300
    :1fd2:301:390:342:1fd7,1:300:1fe2:301:3b0:342:1fe7,3:345:1ff4,4:301:3d3:308:3d4,34:308:407,a
    :306:4d0:308:4d2,3:301:403,2:300:400:306:4d6:308:401,1:306:4c1:308:4dc,1:308:4de,1:300:40d:304
    :4e2:306:419:308:4e4,2:301:40c,4:308:4e6,5:304:4ee:306:40e:308:4f0:30b:4f2,4:308:4f4,4:308:4f8,
    2:308:4ec,3:306:4d1:308:4d3,3:301:453,2:300:450:306:4d7:308:451,1:306:4c2:308:4dd,1:308:4df,1
    :300:45d:304:4e3:306:439:308:4e5,2:301:45c,4:308:4e7,5:304:4ef:306:45e:308:4f1:30b:4f3,4:308
    :4f5,4:308:4f9,2:308:4ed,9:308:457,1e:30f:476,1:30f:477,63:308:4da,1:308:4db,f:308:4ea,1:308
    :4eb,13e:653:622:654:623:655:625,21:654:624,2:654:626,77:654:6c2,11:654:6d3,3:654:6c0,253:93c
    :929,8:93c:931,3:93c:934,94:9be:9cb:9d7:9cc,180:b3e:b4b:b56:b48:b57:b4c,4b:bd7:b94,34:bbe:bca
    :bd7:bcc,1:bbe:bcb,7f:c56:c48,79:cd5:cc0,7:cc2:cca:cd5:cc7:cd6:cc8,4:cd5:ccb,7c:d3e:d4a:d57
    :d4c,1:d3e:d4b,92:dca:dda:dcf:ddc:ddf:dde,3:dca:ddd,249:102e:1026,ae0:1b35:1b06,2:1b35:1b08,2
    :1b35:1b0a,2:1b35:1b0c,2:1b35:1b0e,4:1b35:1b12,29:1b35:1b3b,2:1b35:1b3d,2:1b35:1b40,1:1b35
    :1b41,3:1b35:1b43,2f4:304:1e38,1:304:1e39,23:304:1e5c,1:304:1e5d,7:307:1e68,1:307:1e69,3d:302
    :1eac:306:1eb6,1:302:1ead:306:1eb7,17:302:1ec6,1:302:1ec7,13:302:1ed8,1:302:1ed9,33:300:1f02
    :301:1f04:342:1f06:345:1f80,1:300:1f03:301:1f05:342:1f07:345:1f81,1:345:1f82,1:345:1f83,1:345
    :1f84,1:345:1f85,1:345:1f86,1:345:1f87,1:300:1f0a:301:1f0c:342:1f0e:345:1f88,1:300:1f0b:301
    :1f0d:342:1f0f:345:1f89,1:345:1f8a,1:345:1f8b,1:345:1f8c,1:345:1f8d,1:345:1f8e,1:345:1f8f,1:300
    :1f12:301:1f14,1:300:1f13:301:1f15,7:300:1f1a:301:1f1c,1:300:1f1b:301:1f1d,7:300:1f22:301:1f24
    :342:1f26:345:1f90,1:300:1f23:301:1f25:342:1f27:345:1f91,1:345:1f92,1:345:1f93,1:345:1f94,1:345
    :1f95,1:345:1f96,1:345:1f97,1:300:1f2a:301:1f2c:342:1f2e:345:1f98,1:300:1f2b:301:1f2d:342:1f2f
    :345:1f99,1:345:1f9a,1:345:1f9b,1:345:1f9c,1:345:1f9d,1:345:1f9e,1:345:1f9f,1:300:1f32:301:1f34
    :342:1f36,1:300:1f33:301:1f35:342:1f37,7:300:1f3a:301:1f3c:342:1f3e,1:300:1f3b:301:1f3d:342
    :1f3f,7:300:1f42:301:1f44,1:300:1f43:301:1f45,7:300:1f4a:301:1f4c,1:300:1f4b:301:1f4d,7:300
    :1f52:301:1f54:342:1f56,1:300:1f53:301:1f55:342:1f57,8:300:1f5b:301:1f5d:342:1f5f,7:300:1f62
    :301:1f64:342:1f66:345:1fa0,1:300:1f63:301:1f65:342:1f67:345:1fa1,1:345:1fa2,1:345:1fa3,1:345
    :1fa4,1:345:1fa5,1:345:1fa6,1:345:1fa7,1:300:1f6a:301:1f6c:342:1f6e:345:1fa8,1:300:1f6b:301
    :1f6d:342:1f6f:345:1fa9,1:345:1faa,1:345:1fab,1:345:1fac,1:345:1fad,1:345:1fae,1:345:1faf,1:345
    :1fb2,4:345:1fc2,8:345:1ff2,3a:345:1fb7,9:300:1fcd:301:1fce:342:1fcf,7:345:1fc7,30:345:1ff7,8
    :300:1fdd:301:1fde:342:1fdf,192:338:219a,2:338:219b,2:338:21ae,3c:338:21cd,2:338:21cf,2:338
    :21ce,2f:338:2204,5:338:2209,3:338:220c,18:338:2224,2:338:2226,17:338:2241,7:338:2244,2:338
    :2247,3:338:2249,5:338:226d,14:338:2262,3:338:2270,1:338:2271,d:338:2274,1:338:2275,3:338:2278,
    1:338:2279,3:338:2280,1:338:2281,1:338:22e0,1:338:22e1,5:338:2284,1:338:2285,3:338:2288,1:338
    :2289,a:338:22e2,1:338:22e3,10:338:22ac,6:338:22ad,1:338:22ae,2:338:22af,7:338:22ea,1:338:22eb,
    1:338:22ec,1:338:22ed,d91:3099:3094,5:3099:304c,2:3099:304e,2:3099:3050,2:3099:3052,2:3099
    :3054,2:3099:3056,2:3099:3058,2:3099:305a,2:3099:305c,2:3099:305e,2:3099:3060,2:3099:3062,3
    :3099:3065,2:3099:3067,2:3099:3069,7:3099:3070:309a:3071,3:3099:3073:309a:3074,3:3099:3076:309a
    :3077,3:3099:3079:309a:307a,3:3099:307c:309a:307d,22:3099:309e,9:3099:30f4,5:3099:30ac,2:3099
    :30ae,2:3099:30b0,2:3099:30b2,2:3099:30b4,2:3099:30b6,2:3099:30b8,2:3099:30ba,2:3099:30bc,2
    :3099:30be,2:3099:30c0,2:3099:30c2,3:3099:30c5,2:3099:30c7,2:3099:30c9,7:3099:30d0:309a:30d1,3
    :3099:30d3:309a:30d4,3:3099:30d6:309a:30d7,3:3099:30d9:309a:30da,3:3099:30dc:309a:30dd,14:3099
    :30f7,1:3099:30f8,1:3099:30f9,1:3099:30fa,b:3099:30fe,d4d5:307:105c9,8:307:105e4,abf:110ba
    :1109a,2:110ba:1109c,a:110ba:110ab,8c:11127:1112e,1:11127:1112f,215:1133e:1134b:11357:1134c,3b
    :113c9:11383,2:113bb:11385,7:113c2:1138e,5:113c9:11391,32:113b8:113c7:113c2:113c5:113c9:113c8,
    f7:114b0:114bc:114ba:114bb:114bd:114be,ff:115af:115ba,1:115af:115bb,37c:11930:11938,47e9:1611e
    :16121:1611f:16123:16120:16125:16129:16122,3:1611f:16126:16120:16128,1:1611f:16127,7:1611f
    :16124,c3a:16d67:16d69,4:16d67:16d68,2:16d67:16d6a"

/-- The classes of marks; marks of different classes may change places. -/
def markClassRuns : Array Run :=
  Run.table "
    300.14:e6,1:e8,1.3:dc,1:e8,1:d8,1.4:dc,1.1:ca,1.3:dc,1.1:ca,1.a:dc,1.4:1,1.3:dc,1.2:e6,3:e6,3
    :f0,1:e6,1.2:dc,1.2:e6,1.1:dc,2.2:e6,1.3:dc,1:e6,1:e8,1.1:dc,1:e6,1:e9,1.1:ea,1:e9,1.1:ea,1:e9,
    1.c:e6,114.4:e6,10a:dc,1.3:e6,1:dc,1.2:e6,1:de,1:dc,1.5:e6,1.5:dc,1.1:e6,1:dc,1.1:e6,1:de,1:e4,
    1:e6,1:a,1:b,1:c,1:d,1:e,1:f,1:10,1:11,1:12,1.1:13,1:14,1:15,1:16,2:17,2:18,1:19,2:e6,1:dc,2
    :12,49.7:e6,1:1e,1:1f,1:20,31:1b,1:1c,1:1d,1:1e,1:1f,1:20,1:21,1:22,1.1:e6,1.1:dc,1.4:e6,1:dc,
    1.1:e6,1:dc,11:23,66.6:e6,3.3:e6,1:dc,1:e6,3.1:e6,2:dc,1.1:e6,1:dc,24:24,1f:e6,1:dc,1.1:e6,1
    :dc,1.1:e6,1.2:dc,1:e6,1.1:dc,1:e6,1:dc,1.2:e6,1:dc,1:e6,1:dc,1:e6,1:dc,1:e6,1:dc,1.1:e6,a1.6
    :e6,1:dc,1:e6,a:dc,19.3:e6,2.8:e6,2.2:e6,2.4:e6,2c.2:dc,3c.1:e6,1.2:dc,1.3:e6,2b.4:e6,1.4:dc,
    1.d:e6,2:dc,1.1:e6,1:dc,1.1:e6,1:dc,1.2:e6,1.2:dc,1:1b,1:1c,1:1d,1.2:e6,1:dc,1.1:e6,1.1:dc,1.4
    :e6,3d:7,11:9,4:e6,1:dc,1.1:e6,68:7,11:9,31:e6,3e:7,11:9,6f:7,11:9,6f:7,11:9,80:9,6f:7,11:9,8
    :54,1:5b,66:7,11:9,6e.1:9,11:9,7d:9,6e.1:67,1:9,e.3:6b,6d.1:76,1:9,e.3:7a,4d.1:dc,1c:dc,2:dc,2
    :d8,38:81,1:82,2:84,6.3:82,3:82,2.1:e6,1:9,2.1:e6,3f:dc,71:7,2.1:9,53:dc,2d0.2:e6,3b5.1:9,1f:9,
    9e:9,b:e6,cc:e4,90:de,1:e6,1:dc,dc:e6,1:dc,48:9,15.7:e6,3:dc,31.4:e6,1.5:dc,1.1:e6,1:dc,2.1:dc,
    1.1:e6,1.1:dc,1.4:e6,1:dc,1.11:e6,1:dc,3.5:e6,1:dc,1.3:e6,1:ea,49:7,10:9,27:e6,1:dc,1.6:e6,37.1
    :9,3b:7,c.1:9,44:7,99.2:e6,2:1,1.4:dc,1.1:e6,1.3:dc,1:e6,2.6:1,5:dc,7:e6,4.1:e6,c7.1:e6,1:dc,
    1.6:e6,1:dc,1.1:e6,1:ea,1:d6,1:dc,1:ca,1.24:e6,1:e8,1.1:e4,1:dc,1:da,1:e6,1:e9,1:dc,1:e6,1:dc,
    2d1.1:e6,1.1:1,1.3:e6,1.2:1,1.1:e6,5:e6,4.1:1,1:e6,1:dc,1:e6,1.1:1,1.3:dc,1:e6,bff.2:e6,8e:9,
    61.1f:e6,22b:da,1:e4,1:e8,1:de,1.1:e0,6a.1:8,75d5:e6,5.9:e6,21.1:e6,51.1:e6,115:9,26:9,98:9,
    1c.11:e6,3a.2:dc,26:9,60:7,d:9,f0:e6,2.1:e6,1:dc,3.1:e6,6.1:e6,2:e6,35:9,f7:9,4f31:1a,302.6:e6,
    1.6:dc,1.1:e6,3ce:dc,e3:dc,96.4:e6,693:dc,2:e6,29:e6,1:1,1:dc,5:9,a6:e6,1:dc,23e.3:e6,42.4:e6,
    13e.1:e6,4e.1:dc,2.2:dc,47.1:dc,1.2:e6,1:dc,1:e6,1.3:dc,32:e6,1:dc,1:e6,1:dc,c1:9,2a:9,f:9,3a
    :9,1:7,46.2:e6,31.1:9,3f:7,4d:9,a:7,6b:9,1:7,b3:7,1:9,51.1:7,11:9,19.6:e6,4.4:e6,5a.2:9,72:9,4
    :7,18:e6,64:9,1:7,fc:9,1:7,7f:9,77:9,1:7,74:9,10e:9,1:7,103.1:9,5:7,9d:9,54:9,13:9,52:9,1a6:9,
    103:7,2.1:9,52:9,1aa.1:9,41ed:9,9c1.4:1,3c.6:e6,4ba.1:6,4cad:1,14c7.1:d8,1.2:1,4:e2,1.4:d8,9.7
    :dc,3.4:e6,1.1:dc,1f.3:e6,95.2:e6,dbc.6:e6,2.10:e6,3.6:e6,2.1:e6,2.4:e6,65:e6,a1.6:e6,178:e6,
    3e.3:e6,1fd.1:e8,1:dc,1:e6,ff:e6,1:dc,f4:e6,3:e6,8.1:e6,6:e6,1db.6:dc,6e.5:e6,1:7"

/-- The pairs of a list of numbers. -/
def pairsOf : List Nat → List (Nat × Nat)
  | a :: b :: rest => (a, b) :: pairsOf rest
  | _ => []

/-- For a composed character, the two that it is composed of. -/
def partsRuns : Array Run :=
  let rows := pairRuns.toList.flatMap fun run =>
    (pairsOf run.values).map fun (second, whole) => Run.mk whole whole [run.first, second]
  (rows.mergeSort fun a b => a.first ≤ b.first).toArray

/-- The class of a mark; zero for a character that is none. -/
def markClass (n : Nat) : Nat :=
  ((Run.values? markClassRuns n).bind List.head?).getD 0

/-- The first Hangul syllable, and the first leading consonant, vowel and trailing consonant; the
last counts from the one that is none. -/
def firstSyllable : Nat := 0xAC00
def firstLead : Nat := 0x1100
def firstVowel : Nat := 0x1161
def firstTrail : Nat := 0x11A7

/-- The parts of a Hangul syllable. -/
def syllableParts (n : Nat) : List Nat :=
  let index := n - firstSyllable
  let lead := firstLead + index / 588
  let vowel := firstVowel + index % 588 / 28
  if index % 28 = 0 then [lead, vowel] else [lead, vowel, firstTrail + index % 28]

/-- The characters that a character is composed of, taken apart `depth` times. -/
def partsOf : Nat → Nat → List Nat
  | 0, n => [n]
  | depth + 1, n =>
    if 0xAC00 ≤ n ∧ n ≤ 0xD7A3 then syllableParts n
    else
      match Run.values? partsRuns n with
      | some [first, second] => partsOf depth first ++ [second]
      | _ => [n]

/-- Puts a character before others: a mark goes behind the marks of lower classes that follow. -/
def insertMark (n : Nat) : List Nat → List Nat
  | [] => [n]
  | m :: rest =>
    if markClass m ≠ 0 ∧ markClass m < markClass n then m :: insertMark n rest else n :: m :: rest

/-- Marks in the order of their classes. -/
def sortMarks (cs : List Nat) : List Nat :=
  cs.foldr insertMark []

/-- The character that two others compose to. -/
def compose? (a b : Nat) : Option Nat :=
  if firstLead ≤ a ∧ a < firstLead + 19 ∧ firstVowel ≤ b ∧ b < firstVowel + 21 then
    some (firstSyllable + ((a - firstLead) * 21 + (b - firstVowel)) * 28)
  else if firstSyllable ≤ a ∧ a ≤ 0xD7A3 ∧ (a - firstSyllable) % 28 = 0 ∧ firstTrail < b ∧
      b < firstTrail + 28 then
    some (a + (b - firstTrail))
  else
    (Run.values? pairRuns a).bind fun values => (pairsOf values).lookup b

/-- Composes characters. `marks` are those since the character `base` that stay as they are, the
last one first; a character that follows them composes with `base` only if its class is higher. -/
def composeFrom (base : Nat) (marks : List Nat) : List Nat → List Nat
  | [] => base :: marks.reverse
  | n :: rest =>
    let free :=
      match marks with
      | [] => true
      | m :: _ => markClass m < markClass n
    match if free then compose? base n else none with
    | some whole => composeFrom whole marks rest
    | none =>
      if markClass n = 0 then base :: marks.reverse ++ composeFrom n [] rest
      else composeFrom base (n :: marks) rest

/-- Composes characters; marks at the start stay. -/
def composeAll : List Nat → List Nat
  | [] => []
  | n :: rest => if markClass n = 0 then composeFrom n [] rest else n :: composeAll rest

/-- The composed form of a text, by the numbers of its characters. -/
def composed (cs : List Nat) : List Nat :=
  composeAll (sortMarks (cs.flatMap (partsOf 4)))

end PeriodScaler.Text

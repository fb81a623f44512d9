import KeywordCatalog.Text.Packed

/-!
# Names of letters of further scripts

Scripts of South East Asia, Africa and America, and letters with marks: code points from 1000 to 1FFF.
-/

namespace KeywordCatalog.Text

/-- The names of these characters, in the packed form that `Text.codeNamed?` reads. -/
def furtherScripts : Packed where
  steps := 8064
  digits := "
V#B+4Sb'g3#*VM&h%1Q=FSejn>]tBLN4G=nRQcIRn1:UjROJqvOd6Req+-xB9RuzTo2r^H]AVtP.^AIJL#g:3<WuB*JJxl>R3)FJ
u^8+*&WP)gl*#q0hK2x$0tbq/7i;yF;9U3s:fPTVF.><:%xP:c-T2/Pos-Xo_:+c%'*wVz#$N9fqP;7L>aUY-kJsduchgcV8u&Xp
YE&=2d2Q[F-[xt'-OGyI9SEMALhMM&(Q/fk:jKB_&aXjDb;2Sa9SeUH*H<D3.1d5c@.5m2x`36yN@qYF)R6wQ9?hia`4]*5YclIc
H+2Hh/dgR7],HSnaGWH9Iq,llpKl324n#9AnVO%en.k)C!_o]+'k+.I?Do<ozsdLT3kI;_Fl7'/]*Q<@SaH9<x%[Sc2'%.(9*bHv
1So$G.!a>b,'P3IE:M.:jpUfQh70Vctp.%Y=#pblIJk`HJ@.*2:EpLf4c>Xb8Hi<X0<sL-sDWVMhn$N9)q)sODF6FP(U'd-VtbP?
ce/LZlmcQ'-a2:Kt,[1ad]ewRwpWt:a!x,A?7QOb7^3'`KFfD@Bc<$V+B^HAsU2XvMwI)([pQ*_3YCZGkQXQRqP,.T*Fiu^uhMaF
YzhXH/:r!aoz3=s`5NXYIVzw6h[!*ZTXhM(g(Wfga(J%?D&7.XT/grv2KO5x8+Ucf*?A#M<3^3K!pl^1KiqbbGk.A7>.+s35L%L'
Bg<ghArEfp;#bv;%r0YFQO3yZ0UD#bY1Y^9pyvyazmhyD-*R1l:xM!:S)2L;jrg4wcJ6#[MbiU5-'Y&lpyl5EMS]5WX^0!+2lSc6
P(_%?G(?&kW48oG)>lRIN%L/aV1tL`5,EEo0rM0JIscDgTw#tyTkhm:<Krpushr%xMUA-3S1jC_6m)C;'I`P+j9nkF`13u(G;HW^
^C[0d,Je+p5et<,e^q5!7a`6C'^A2Fqw#_R[g,]v%4Qy*xv@yOJn!Z(8'u+'EtJbkYscy,U1p_HEEcNJo';m:hF22@up;sp36;vo
XaQW(^T(l2&(AF>c6WolMF0vw<o&BKw`J;&wYaHC%OMDb_:%>6nfALU_2e1.DK@3U$.d<t(IZylTu[J4G6zO'8'_oU0=@)/v<BPP
58av68tu-kv'1q1mRZ!4rRetV0(gJlAm$ZYBbMSsf1HZF(9$j_WpIes1F/Ff3=Z!S/Hz4+)W<vMwidC`f7agM$=*eZEc-qX^2t3M
fK^IKzt'-:zX;py*b*7b5U:VlTsd@:[aAk'Ke='p,f<F'N4/sn@gOcf,;g*%INOlbHxq<x5H-;pWKN,)8`<R3=INLr->)F5b$Vqp
rUzn^_DjKg?'MM*S:<980d]5sAAj)is^[dgze1NV97`^4y/KiD`XREBJ4N'_9R,!HtSsLvSGvHg0zzXz&MPdtF?Ww,`xLE<x8T:)
A)$)kuElOf%7H'YK2?8cttlw1p:`i9=_NkGW;s8QPce-#B'-]<2Wr!5=k^h)mZ??/?6[DLcoT^*dHwTNpZbC(7CBW*352L9JE[1E
aTDca:!('vO3P;b>z+2H6ylr?]5HOtP;uP7fCT8po=l/fTuY!K=ua<BFSTs9]DHQynXuS>ZQ;(`dgCw?U[WIw[KyRKFB>zs`>!n5
Nf5fr[Z>*3fyH-aS&xo8BP#.P_#rY6BV==,yj/MBEsxMa+p_ZBHjNeU/f_05WY<:%F^ph3_e%T-BAN]Y!9_)F6;<dR&N_`Zw]nP0
oi-9uN06Eg)S[A8DPOb@Cnl(9w$/&ULGKXGHR*J6fm$*,@+ty7],b#;JBc;!phE_z1bE3x$P-JuWPc99qCBCZ2<wCy+s/4<Oq&EP
Z+paE]/cd(BFHV]L%M)#qj%A70`rq5O$(BctuW?w]jE_l%8[N$+J[wLvx$v<:+<$;jPyP.g.KAAC(iE1kg4-vCKHKuTo5nc=5Dv2
M/()kIj(52qnm#!=+&q7e,'W9DZk<<2;jg=bZG'JB[4Y78m5&yNI'X*3(TA%4=E1siiN-]_YF4wu-ED'qBq(=p?8@DFW-)6M:(oo
L+<i,P[gX[>u`]P3A@[qO!;1)w__bLG?$C:,38,lyR_F/_QlAX>V5F$zzMQWLJBm+`#-85magW*qe[[Qyv4+<L,-Sz&jj/uVl)wu
8sHDDnF29WP0Xvf.yjVbKD!3CG8ufa7/Mr>6js=YY0P14R>&44/NnSmKgYhG%`4%KK4M^$lBhS9+T1DZ_<L:(IJQl,DnY.2h?<?_
1WDehmR7ddCvrP'*Fn%5BXYI;;Pp:9.#fqk+pMOa?Pl5e*K92Mzj@KIpuDV;OnY-6#2/Yj0=/Wf6(B?BW?ToEJ%svW6D[kIbQ1DP
)a_]@`k0uV0#.20&x[Dm7wzUjW$(3D&e1(JVh8%OCS'5xT_HK]$xz@AY#=GzTjZ),-VIB&8bdWHZ-bwf*_YXj8Wc/hG(n0^i_;Mw
CaBVp_7)NZRh6V5RYg7I0Y:dkt;@9WGHfEZ'9I'nZ&`aB^E8GK14abaN,^P[F!MJ!*!$eb)AN[Mue[G'cs0NL<c@&r@@680gev=F
gW)y)c-7M4IYSc2??5[r5!Z*mp<zuN-*ZK*H`h?Di]!h-6UwGu.JMkSD/&KbYD*QX-3J+P9WfOGcG<8H$q*uPSW?VJ9]XGlNW*7
T@Ty$$6sH!0Jiu&;]WpP*C`!h6=KVxb,85%N3OMV@P6FXEu*).hZtly&X=&dr,i0NR'wM'B@0!]KC<h)5>%!nf&u9uOVs>Pffi.9
oIB^p*>Aqux_@rBRnn:1U8,^yOGX%AYIfvfEnEl`ZtDCiki8<4yAI+#S8Ya=$?tpp^7?yw!Hm!DPodNHZzo01vbPO&$.4I/]d0h;
1SqCbYCqJLVW!Wp&;(GZ8$uG&X.r_xVZ#z;uOcOesDxMfuru;3EMLw9%D0[VC!,hyn<^&,)oCH!OY9#y<hb:$ez[T]%wM)$VO]u:
M*A<mV9*ufQ=[/z/Qg7a]'1:M%N7_7oZC;d<snS:+4MYG;96s](oV*(O!=GaJV%<^&$Z,0M`VIT1s)K]/jN)[eq5df_dJTbL<WuB
_M'n(!t*'Vnl@vOVkvs?(@*fv:3[=2lLU&-xCXrbG1Y=;cdFO>XXCjXHeK+dZ*olmOsI]#I7u^6:Hh'J;Gf)4KG?4[QwR(<rgW)z
dDEO([)b:p=sVy#El'iA2FR*wOpcJR81mREwVG!fNE$_r_P%^XUlWaYpAcD?IEy$jJw:Tl%kC19ukt?HEk:mk];y&'Lcb4GC]B/3
H-Ha>p&1kL[g7d0KLkr-qs,+s10<2GwP/!*?uPxZrV,v@HTZnxMG.@%kITi5mF-2<QvFV4pz]EKk<:U^<G4b?wkaZ_VW>1iy20fI
Z=0>y^+bs60h;Yoz]bV6hl2&p0wy2ku7=hT9?d2A]Ec;=]iUq0ejPTk7#^h<TN+-ohSLFvTMr/&$l>Y.PK1C;GS)wN/Xbt)3cU:U
skoJfvm9lQ/Up=Di):fWo'Bjn;%U4lbHob^$!Tw^.71^*esSH)XK<(+2%oQrH!#YDRdo0@L5.B+u(37*#!nkgI#*`tckD?(LZJ)f
s7swdYzES$&+hV:??kIjM2'UFL,[Qs3]:x(BXYPLg)@?*.Y]@fr,W,,GeI;ZD;+1u>wdFgBY&zFK%E7_+/XWWD&@C$YCI)WW7!FU
%b;?B]d=@,V&%XTND&oBA*%m/oGhkYgto?EuVEdKoXS=.*,lzmB@ql*1j,A*^;kWUy3HUQSG%+`QjFURx-<>%TZmbuu^YGs3U1Gf
=FW:!Qi0h,LG<,CG2ndeahS4gS-fi1f-Iz80TdKO)KkX<1t':(>$3YfVE?1US'=K6,(b8wvWnsDM^U=F^&@V=bLzgZjQ2P310izx
ZMer%Yt+OEep+$+(w1_pBJJ=ig1t^yu^@Cg]DQWpMF>Y6ePf=?Ce/2QDqd>VauXrns`,.;EuJd;V%+4>r'dZ%ZMf9Pek4E=Otau'
vGZ$,P$5i$sLR;=Vy2_&ftQz*j-yM[EbxpaSn?3:(ESU*mwIMUU;diCXm)Er'4+ktDR[]!]psgz9an0^#`?k.vPsMdmu'j[E4PW)
Vtg$Kx.u%__&:)^*:E6'L&2cF?4t3GD,'NH&[Kn?2_rENjKVad[q3/hUD+lTA#Hl^]8y#5+`l2KPbhz5C5>9I3fK!yHviX_U>A!U
E%3%$cE:nv08'e$!HV>ZmW7C'*N,jV@S'zMHF0p/,Gs9N48@DcAPBtI'L]rOBhN:A.3p*YVLAM@X[dvVi;Ifj)(A^8f[Wt:cZrQ=
ISXhd8O:HQh!?0-<,Cs]OD6*2L9_8]`Et,flVoZ0Y*RM9'uIQkD0e_TjUam6Nar&hesm*(sxyt9AI@5@_NPPeJ%Na!!ZckkT*_]`
E,<$KKBl-;N^3`G7%tr]?JM9m5Gi%,'!:3/a+B;#K;7C(EFFaoS?u`vD^C1Qx/oH=>V&GB^^SNo^1rsLdk>S=$hvVCF')@A?x<Sh
:w]K>n16uvWUteY>I@*,zKxeJP=ifes*dCoBj,<%T),GFEP))HpqmaE]3-<Y+ACJ7O%FYgP@m4rEo1[9dDmcD_Ld?t8xiV^UsXhy
B5L>`Y<Pgx#Shk7Y@4UGv!cxVRYQoN3o@2hJF(,q8z]0yJ2rz'Lk-?>M,9;0Ar.:izcx(Z+ul#(h(`uhQY#Y4N5IK?,EXj3h>T:)
jy:$hHj#F*GU3(FIeg39IHV_(qwJ72O.`GmroA_/Gr]+kxXE2).9tpL;6#T?D&'hj:2XQfCM6/txbM,M>K(ih!(7W.^e..vYZ<EJ
,h'biPte<9uAAOF[)KQEO.vAK2YzGrd&q^.+l+s@Fe+p+wTqTVrH=/3[e1Tj67P^wzA)c`r?$ReqcqIY0hR0_-+RbD^e04r2Ki_@
km)n%JJoCsxK%1gH(+hlsA#^h-7iKgSre6r<bpUg5Y5vV>:[t/<lH(93'`O9jW8M0FzJxB1G_yT87EN0O:w%U0C8v:a.kjOG^l7r
QJ2:mUP1Xf_$?MuO?)F,7_'R8d^+v*j-dMNbAHX!^Eu[JG9(`A#Wgr@SAqju75s7o3xope@LPR.66_wzr6^X>vOwY56EjxgY;>jl
0(&iChO:r8_N<O(;&XZyifZ16Y*.lvxKi75B<4%S]'g^3yOW9Y3L)GIrimC?;O6@<-_B=)4,?)ZRw)mKFm!2lQJ9;uCkf=>#bPEm
b_1E)a=RInkU0/BPpLegqfH#_X!zE1A2SJt;O`9Ly:$Qh!HFjl/80$T4TlPSGoo5'ceFfTX!eBaCU6hm(9F<eLk+8<^$(AXU<4SM
_Z.KqRGQ0rQ4_kHT(^N&]2G[?Q:UwO<M!&k'Poi()/*U,stw]*v5D/YO;?(TKt>VOM@Hc2A,YKzue75#E)*Z*U_R=4nC]-6og+iN
qy)4oOPovG>N$p;:sl&78fHh^xD&@61:!giRNf21ue8i@2u&%^v4Ih@Et7Bz*,U#hQ_ycwC*!`[wj[:u3i%R!w-.09[3i>]/4&1d
W((MF*zXFpC53/O%Ix'01es6-jZfcUc2M.rrbu^#*0byJ:A7b<:O[qd(op34ls*Z-hC<s>hqKL!r?/HO]+WGV>m4/lr'(+@-W62
L-flNmy2[3opN)b<_2.&_-hQc>u0Gn&E)!A95JVh%MZJ1[)?=_a&k/yuz(/KUTL:3x#N5BCfcr00JHF$`jN^-WPI`[dbPL^5KX+_
4&tox(31L79d6O`*xjv66(_st6oEOEUS<VRmU-1@+bG@jJMh66Sw8!v66PQ6)nP+2Mf<xiw*E`a_nuhpMcnI-s8[u[fAk5-0ul4]
G#p&L-SM_$;3[x!yMCTmIx9xe>$%eEt?v8A.7)E*!rWxK?!4&[Nc*c3P%,uG>4)pH%N_eGl4h+mU%-4g:Br?L*Y.OP%YoJsZd64
I@vL'fdbVFysqpC2/@uuj_MgPbb4.[GgGC^5[HRfyz*8#x,(K`8+D].DtYk?U_?l[+$A1N(#7sXaKa9H+yR9'7XlvY'DY^H>'(37
%5g$+(s)UcMrei?/L0c^r/'SQ`4.-[>XgXS%M?4H2OIaCfNy!r6n%=-5PAoZrtW=f?Id!c98x&4Ov%@td[hpiDYKwRp6XNE,=8S/
=Y@2;P1m)'[u45/!h=So'a-q3<s'#f?=UlHMfVPM_`.h_ZPph0ur7=Dlr$QjV`649t,7Rh4N8G6nHpXUUu2$+si'stv(4sJAEbN+
x%#W,5ug!d-5d-%bYj<-aS`%oer@2A]tN^K?yuIw12v]*vQ$4sbqyIehYy!9%dgFr.(D43&crE!-jj<yvn)_foFHA(5ukN9a,<R9
s,pU0'0v0_nfg-2DIb/mjw4ue>1zpCe$bUm+UL@u@j6Jw,3H#&+,Q(UP66W%nX'TrIjUv%3UbV46%1EVUGPES-#l8h5#p>N+jaP8
RBfyGcNV'bJ+Vx'#Y@+Mo:i+os'zi]'$n*aRS,t56c/R2d7Ihf6:QpSDej1qrw^IC@,;U'Fd.6G'O#ncen'9bN(XR)%n!l]qlTSV
)yt,N$$9V6hzHY[p)gKLC]Fe67XJ:Q6Y_6qwv=xk4@f'w)^'@*<`Q%Fi2?BxdniqWPSZXlshUS2lMSnUUGNk#8y?^qkD6NZBR?Lu
'n=fEFjoXb6+I3kPhMk_y_6.VmjDIO,pEPC^IWc/]@yxz/%eQy.(sgw'hX.@lE9oS<90gS)?b1'Pm]ct2$_HqS/)L#*!2(dTm4&`
8lDrZ@2BW.u<A'P]cwW7ayP$C7H:2ys>ae;hp3M_R)%@dJ&w+bcqnm8_3@nRbUcd$fe%?DW)>OpHsa'pX:YS`&Tl3sA$1rt)!zmM
CqWNQX(r!Yxr3huY2i!>smN[tL9Zl&O*3Mg%V-hT^sEdEq&ira.TrL7>%)nz^%aJU^g$DVO_Ql43*%33'Efz.i&f)mLi;Q+`vN[6
wo(f%c<w,`_ih>ltsB$S;-A=0i]F7.!,HQdS7VYaf)`whn0x-yG^9Fq4(g.NxO_`CM/g3TgtEl3Y9g,y*KBEaj?Qyf+<kF(/Wx]Z
m-W:YL+*CU20STHbYKMZ&MSCV:@P`mR4BUEp'$[VWOvy,[v!crXQItud4;*QjIOU,x%qU43OcEb39x;B`YXSZctw4L`1<aVyKj[^
F3s#FX1ZVi=q!c,,)TEWUA&]'O1FER/2=%nK*a/Zbc#KB[*aGhzDV/_2!!,f@IS!Q5,D`*0LrOv&luS<&+PWG.E_BT!PbOBI2Q=H
'=#bvstPmU[iNAd-jH3,)Quh+gX#;jEt4?Hx2^vt__)fqInA;'ZhrFsFp3pLFnAGr$-terKcz,qIp@m[I?TfcE_`)AoSdrU%TZ^;
rG0H[jM%LRTh)(8KlhDzW^e!)]DCaYu9Yp+_EqiZy>)L`q2c]??T/f%jlQ<;zXX4[Hdjb>FUDv`?nl3?On9m%(x&+--`VI5f0Bpj
S91;B&iS5)S@Vk(%.zNLe5HI_$b'SXt!R=+;)bq`>!qThVL1[7V+,$TNt>F3DYsX]+@?x_L)'NX)fM6VvRrXERaZxS=K)Jf5H@Jz
w;w4ID=wT^ztgU@8KmRX[D9gliFa;Kc*'Bze1d[mJ?_i8AYPnfrBL2&qJ26sy,U6T#49/A%0P[V+C:nC4qPl^mWL@OMfFr<NRHf=
zI=yd[wTF@GL^m*%uRkl.l[lg(=+l`x<%'1isjXIgoJYjm64r5DoLcvE>FZWtxC-^oA:.3*+USRzDOhR!Y4Jkbvdp[jmAajWb%Ge
BuY!<H'e*LxK!e6WHGTY,bnYYO0QvjCp6m0>=mrW;)>DAS3X_&JymvqL,.IKZct0M0;qS5&ikx+6%kt[DubX`$6*9*Y2ilI?rDAd
CZ'at&V0*w6U?>LFGmYoAQ7-l;LZIfT)8`?>Tf;u@9LGelQdWl2!_=p2QU8g$,^Er7wYE/=0=X2gc<MDEj/:l)xNg]XG7yIH(3Qd
OWhlt$&R4=U!F[kCxu5#q!SCLy,I5Fakq<).m[Qxl24GVpNDksdR7=cwkYd:_BwMwK#x@![7`?1HuR1'+=jL7lR?YY]N.yLTk+h*
Q5DV^@!dukTk(;PFMRu]Y%Zs;9.+htQC,-a2%NS&$o0$UA34q&tsB0'z'VDd?X3&woA;EiFYcvikA]-t9vfIXtTT(<HHxi7x$Cd'
QH*i:qt/4uI*f=?61[;`]>9eZX-g:j(Sn!I,h7>+TGFMzmk8@iyY&0[<.6.%JADi`6@d<et^40&!MTul%(rA4<Tc]VR6SVYXHY;9
z.pG<#;cj&i#c)&ko=vr%hSv6X<NJQ&+jpN*ZFL[%G?m_I^Cr=:@U/%7XsW7C=;!%6k$JC<qX`_QSf^xoeD1w_NLRbDvF_SYF'xE
E3k(o1k>rFYFgvKxBung2blZa-yHYx0$ZFnVw:%F@RJQ9bWD;bl+DsJ^mv+Cg^t,'0a06CzG&J?eFbXeNaXn4g:x-0y/@?B_;23U
v6hjAY/0,dRuG6WS+?^:D8&?2,@hG.OFCcDF*(9.2o8mvFU#xO8yV.d_I>HnC8^o7L^qzQp8olE]msCWS'3Zk0p-2=mb@Hf$07Yy
)m>8[Q3lR-(]5XiyH.[XW:O'G'0<t6E6z/knb2[N_+e-R$=O0d;?wAb?e*99@StzXcL>?SYL*Zhk?la&KL*U;iDLR`f5lnX,wRQU
f(E.aBOuTNG#*iwN?PM/RCX>@I:Po/y?Z1-`y=,Z$GGD+n6R2^F`LCIF7t[R,=0>93PUJUyq4$pLsmhoo^)Wt6i(>U,?Ait<(3Q
^#?86Zq9VyZAs_#b;Fqq;ne;JHT<9$a8H0nw=7yw5'HaaGP6ObEK9Jfefm,FwBu9=j`8,d9l-n9'/E&1R/nhV*Cn2rsjS8v'<Yy4
7:5*_P5gf+*>F9M#$si5o[DeooJ'=AwxV>.P_*eMmt)P:p/).w_vC7a_/>-&8MdG#g`Q_[G$h1s3XrtivQ0^B+6qt6NW`DSec#'Z
BT#^OYtTySNF`_5v2n9(C6<Y-im0d!U*i0l)8XnAzlHl&_ScR95[>jc3dz?QbfR)9[U*KO1^SD,Uf+5i/%uGwcTUvl>orc#+J7n%
5^Ax4-7`du)p[Anqr5+#&+=eQ561/MF$R+kx:^HxJ)IePjF#$X-PWMc*'t7<hDq$]16/A$?d7/S/y50kfk%_3.JHx@2!ejQ?YKoL
,HD8d3S-2C,egys9RY]bZjWVsh9wNTV'Jk8'kxGAa(Jdm/YKkCJ)OM@z=dg*mvXgt=iJ+a_OnAv68B><@gNXO;M`3<I029.19<5S
x1.5OjU0wHgT]2CX<Ls/=$zVSm&`q6Sl+Wn7&fa=`,pg[Y%kt1oqN]KgGXXhjR*R66$nU)7@T_$tT)xCh>E@5>Hbl+A.#-cm;mVz
;$?cy&]u[:.S`C)TG?hX2]E+&Ch9^,P>M-oMIvWBDP#`2=BW?*fq=J`#lFe]U)9'iM@H]R/n!EfB7)_*A'@;OTyWb#4eL0uTc%MH
3]z#IIz9PE<q/tffhAX0[g/3kn*AZ!=&IE7_Cp63p[JsW6FG1o01Uj6=Cf6yw*Rw.]i0QWSM3aznsbQ5Z,cd/%e^9tSV1q4NmHaG
&)4+aT*!mbTfC*1HojcT+!w.&n#8aDciIik*y/w@iq%TNISiDp=^zMr_$*kY%<WadMqnKPzGnq0W_hFP#D5SDOpfL/M'qv,Z@$)+
TYvr]O(ss(?dud3T.1D(KIL9KHwA_H>[KCqacJ+eakwgbAb@0wHKCz9rN,OQ$(`3e#PtvI6JyS0?!6@aX_0+)bc;#V5(vv:;)HXH
5o.$Af9o:K6]0):91w8!L?J)'dd_)VNs?mZPy9S:=NuHQWz%5'ABVNslBN37KB(d_AVlI/_-2`MK/TNIfFJ`Z)R6+%.lJiBw#g?L
NGFP8'Gt21NMpElSZ'WL#e851'58pIC4F(<)CXJtVwO-zXX5$Ba7i,jv>/--h<oz06Kv5NXn4N!'/9(T^eA^MnoZVl-.4I]rMVQ2
x5kC)0A8WbcFv0d>xjOS]/;jgX?=G`@K$^-2(2!+*m/pNhsc,h/)6Rsl0U]JgMANpn!b;i?#nC-[C4s.;j8(2nkuV$M'Rmot]P:`
kPvrpk)^KV6s<Wkn^2n.[8,?#6P<o./&F.@mSvGnC=6&Z%W<t_#mqvys9v;Iz%V[hb5//4]`YLqw(Lmot^p<!sygMlP8(u&fO:je
yHR>(0*^#R%LiLo4X:%q[O)L.wPVM)9F?dYhTH@4!>sm=w5PV-9+jS:Z)'Tjz'e]i7Knu_VJ5kv9$wvxRMX%_mk?v@g&7K=!wu$4
1apwW`3yz,'yjZ<Kg<<gL0cNe$w-BncDyKjbr1TdS5V.9f$JH+1GtMR1WJal(R_bW0flzsB[6p1Tn.MReR:-16b.ax)m?kL`,U>-
<!'K7VO/;t`!H;?`t,K^SEE<0YwF^_Jy='K9*B(zz/s'58v0ZOpe6__D(s_2_pwldpGm?f=Cjmu[Dzx,yj))a!R#wIxQlMHz5pyQ
oa4FFklQov]TF]T&Fa:4]rJ&v`$M4&)%RFI$'(?MF+F0*HsO6:B^GK;cB5+RbgvnywzPCXPbv&-&!]$Ujf%MHug*uX9>EWA<JLy5
,s04A%ByD1Z0El6]eM9]0Q#3vJ5`CWPF!CP!TVhvh@dG83kZ2b[E@futz!/g#Yo0%Wy0-Ez8PdecZ'80W%^7PBs+@'La?Qme:pQG
uc>pa0>qXBXcMKw7F<632RW.)VO*4=reE0ei0Sa,8cj7vV;*qJDbsI&n`3R;9+MR[)O2J-+7bxP'h;;;.+EpQ=#[Y[qGuvH80AmP
nVth%F0fe/4EPUp78(VeI>a?w_msKRDP)<aJ:@7X]c0(!_u8c#G5+([&Z`!p4k#s9x=bhdCl@/@q+c$?ZrFBld0$t$84vR6^NUZZ
r5Nffkk1^B%>lQ1sTDFK(GS)5ViG:Nwz@[OUTs6VoLySPj-,5M`li5++AGPZrrFYR8N9672Azvd?8z:sl4T_xlA^E2P<4'AdoQ_<
WBc.hCr$PvtWV&SQ3=PNsrg$B#KP24^j_gp+XOwl^EK/MQP5SlFspY!FFw:t8rG(,(yqgcQWL;Mk#[/,&+`yr&Oc,20PiyIO$vC>
7UG%ZXdz)7?.v!oW3sHj[j;2.6+xnN?8v2&Grvk>^7<l&-^W=,Ql:MFWQ'JM-kgws:WA3;a;y_CXf/P2K;xL:oxoxgM@(E0P-[J]
5!<CL<890@GYQ`8`E_q$F/C>S0ly2^nk.g;6O-?hBP9$6E@&gU-v>(pDoaz:3s)9!M>&7P)/XW@^a#[(HbC>C`FV_k2q0n7YG25M
<&Nai;wk5zRV6MtY$ZQ=#9N_7q)x&Pe@qe+.#(Y;h0*,l1Y&R,m652XnG'ZbL'[guN`aTV>6-A6-L+8.TfR[azEF`OL/.0ihl7=x
UjUgMW<Z)U*+G'r#]x1/a9:x9'-?jA]"

end KeywordCatalog.Text
